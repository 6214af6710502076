/-
  RuleScript.Proofs.Web.Rendering
  ───────────────────────────────
  **Addresses, cut up and put together.**

  An address is written by putting its parts together again, and a part that is empty is
  left out with its separator.  Separators may stand in later parts: the fragment takes
  everything behind the first `#`, the query everything behind the first `?` in front of it,
  and the path may have `://` behind a scheme.  So what is written is read as it was, and what
  is read is written as it was, unless a separator in it has nothing to separate.

  Main results:
    • `ofText_render` — an address is read as it was written.
    • `render_ofText_iff` — which texts are written as they were read.
    • `read_and_rendered` — both, and what a request asks for.
-/
import Mathlib
import RuleScript.Proofs.Text.Cut
import RuleScript.Web.Url

namespace RuleScript.Web.Url

/-! ## §1. Writing. -/

/-- The text of an address; parts that are empty are left out. -/
def render (url : Url) : String :=
  (if url.scheme = "" then "" else url.scheme ++ "://" ++ url.host) ++ url.path ++
    (if url.query = "" then "" else "?" ++ url.query) ++
    (if url.fragment = "" then "" else "#" ++ url.fragment)

/-- A part behind the character that stands in front of it, if it is not empty. -/
def marked (c : Char) (part : List Char) : List Char := if part = [] then [] else c :: part

/-- What stands in front of the path. -/
def authority (scheme host : List Char) : List Char :=
  if scheme = [] then [] else scheme ++ "://".toList ++ host

theorem toList_render (url : Url) :
    url.render.toList
      = authority url.scheme.toList url.host.toList ++ url.path.toList
        ++ marked '?' url.query.toList ++ marked '#' url.fragment.toList := by
  unfold render authority marked
  simp only [String.toList_append, apply_ite String.toList, String.toList_eq_nil_iff]
  rfl

/-! ## §2. The cut at a character. -/

section
variable {separator : String} {c : Char} {s front part : List Char}

theorem cut_of_not_mem (hsep : separator.toList = [c]) (h : c ∉ s) : cut separator s = (s, []) := by
  unfold cut
  rw [hsep, Text.cutAt?_char_eq_none_iff.2 h]
  rfl

theorem cut_at (hsep : separator.toList = [c]) (h : c ∉ front) (part : List Char) :
    cut separator (front ++ c :: part) = (front, part) := by
  unfold cut
  rw [hsep, Text.cutAt?_char_iff.2 ⟨rfl, h⟩]
  rfl

/-- The character is not in the text, or it stands somewhere first. -/
theorem mem_cases (c : Char) (s : List Char) :
    c ∉ s ∨ ∃ front part, s = front ++ c :: part ∧ c ∉ front := by
  cases h : Text.cutAt? [c] s with
  | none => exact .inl (Text.cutAt?_char_eq_none_iff.1 h)
  | some parts => exact .inr ⟨parts.1, parts.2, Text.cutAt?_char_iff.1 h⟩

/-- A part is found behind the character that it is marked with. -/
theorem cut_append_marked (hsep : separator.toList = [c]) (h : c ∉ front) (part : List Char) :
    cut separator (front ++ marked c part) = (front, part) := by
  cases part with
  | nil =>
      show cut separator (front ++ []) = _
      rw [List.append_nil, cut_of_not_mem hsep h]
  | cons d part => exact cut_at hsep h (d :: part)

/-- Where the character stands first in the text, something is behind it. -/
def Followed (c : Char) (s : List Char) : Prop :=
  ∀ front part, s = front ++ c :: part → c ∉ front → part ≠ []

theorem followed_of_not_mem (h : c ∉ s) : Followed c s := by
  rintro front part rfl
  exact absurd (List.mem_append_right _ List.mem_cons_self) h

theorem followed_iff (h : c ∉ front) : Followed c (front ++ c :: part) ↔ part ≠ [] := by
  refine ⟨fun hfollowed => hfollowed front part rfl h, ?_⟩
  intro hne front' part' heq hfront'
  have hcut := Text.cutAt?_char_iff.2 ⟨heq, hfront'⟩
  rw [Text.cutAt?_char_iff.2 ⟨rfl, h⟩] at hcut
  cases hcut
  exact hne

theorem cut_fst (hsep : separator.toList = [c]) (s : List Char) :
    (cut separator s).1 = s.takeWhile (· != c) := by
  have hkeep {front : List Char} (h : c ∉ front) : ∀ d ∈ front, (d != c) = true := by
    rintro d hd
    exact bne_iff_ne.2 (ne_of_mem_of_not_mem hd h)
  rcases mem_cases c s with h | ⟨front, part, rfl, h⟩
  · rw [cut_of_not_mem hsep h, List.takeWhile_eq_self_iff.2 (hkeep h)]
  · rw [cut_at hsep h, List.takeWhile_append_of_pos (hkeep h),
      List.takeWhile_cons_of_neg (by simp), List.append_nil]

/-- **What is in front of a cut and behind it makes the text again**, unless nothing is behind.
If what is in front has become shorter, all has. -/
theorem append_marked_eq_iff (hsep : separator.toList = [c]) {r : List Char}
    (hr : r.length ≤ (cut separator s).1.length) :
    (r ++ marked c (cut separator s).2).length ≤ s.length ∧
      (r ++ marked c (cut separator s).2 = s ↔ r = (cut separator s).1 ∧ Followed c s) := by
  rcases mem_cases c s with h | ⟨front, part, rfl, h⟩
  · rw [cut_of_not_mem hsep h] at hr ⊢
    show (r ++ []).length ≤ _ ∧ (r ++ [] = s ↔ _)
    rw [List.append_nil]
    exact ⟨hr, fun heq => ⟨heq, followed_of_not_mem h⟩, fun heq => heq.1⟩
  · rw [cut_at hsep h] at hr ⊢
    rw [followed_iff h]
    cases part with
    | nil =>
        -- The character is lost here, and nothing can make up for it.
        show (r ++ []).length ≤ _ ∧ (r ++ [] = _ ↔ _)
        rw [List.append_nil]
        have hlonger : r.length < (front ++ [c]).length := by
          rw [List.length_append, List.length_singleton]
          exact Nat.lt_succ_of_le hr
        refine ⟨Nat.le_of_lt hlonger, ?_, fun hnot => absurd rfl hnot.2⟩
        rintro rfl
        exact absurd hlonger (Nat.lt_irrefl _)
    | cons d part =>
        show (r ++ c :: d :: part).length ≤ _ ∧ (r ++ c :: d :: part = _ ↔ _)
        rw [List.length_append, List.length_append, List.append_cancel_right_eq]
        exact ⟨Nat.add_le_add_right hr _, fun heq => ⟨heq, List.cons_ne_nil _ _⟩, fun heq => heq.1⟩

end

/-! ## §3. Scheme, host and path. -/

/-- The scheme, the host and the path that a text spells. -/
def frontParts (s : List Char) : List Char × List Char × List Char :=
  match Text.cutAt? "://".toList s with
  | some (scheme, after) => (scheme, hostAndPath after)
  | none => ([], [], s)

/-- An address is cut at `#`, then at `?`, then at `://`. -/
theorem ofText_eq (s : String) :
    ofText s =
      let behind := cut "#" s.toList
      let before := cut "?" behind.1
      let front := frontParts before.1
      ⟨.ofList front.1, .ofList front.2.1, .ofList front.2.2, .ofList before.2,
        .ofList behind.2⟩ :=
  rfl

theorem hostAndPath_append (s : List Char) : (hostAndPath s).1 ++ (hostAndPath s).2 = s :=
  List.takeWhile_append_dropWhile

theorem hostAndPath_of {host path : List Char} (hhost : '/' ∉ host)
    (hpath : path = [] ∨ ∃ rest, path = '/' :: rest) :
    hostAndPath (host ++ path) = (host, path) := by
  have hkeep : ∀ d ∈ host, (d != '/') = true :=
    fun d hd => bne_iff_ne.2 (ne_of_mem_of_not_mem hd hhost)
  unfold hostAndPath
  rw [List.takeWhile_append_of_pos hkeep, List.dropWhile_append_of_pos hkeep]
  rcases hpath with rfl | ⟨rest, rfl⟩ <;> simp

/-- What is in front of the query makes the text again, unless it starts with `://`. -/
theorem authority_append_eq_iff (s : List Char) :
    (authority (frontParts s).1 (frontParts s).2.1 ++ (frontParts s).2.2).length ≤ s.length ∧
      (authority (frontParts s).1 (frontParts s).2.1 ++ (frontParts s).2.2 = s ↔
        ¬"://".toList <+: s) := by
  unfold frontParts
  cases h : Text.cutAt? "://".toList s with
  | none =>
      have hnot : ¬"://".toList <+: s :=
        fun hstart => Text.cutAt?_eq_none_iff.1 h hstart.isInfix
      exact ⟨Nat.le_refl _, fun _ => hnot, fun _ => rfl⟩
  | some parts =>
      obtain ⟨scheme, after⟩ := parts
      have hs := Text.eq_append_of_cutAt? h
      have hafter := hostAndPath_append after
      cases scheme with
      | nil =>
          -- A host without a scheme is left out, and so is the separator in front of it.
          have hshort : (hostAndPath after).2.length < s.length := by
            have hlen := congrArg List.length hafter
            rw [List.length_append] at hlen
            rw [hs, List.nil_append, List.length_append]
            show _ < 3 + _
            omega
          refine ⟨Nat.le_of_lt hshort, fun heq => ?_, fun hnot => ?_⟩
          · exact absurd (congrArg List.length heq) (Nat.ne_of_lt hshort)
          · exact absurd (hs ▸ List.prefix_append _ _) hnot
      | cons c scheme =>
          have hall : authority (c :: scheme) (hostAndPath after).1 ++ (hostAndPath after).2 = s := by
            show c :: scheme ++ "://".toList ++ (hostAndPath after).1 ++ (hostAndPath after).2 = s
            rw [List.append_assoc, hafter]
            exact hs.symm
          refine ⟨Nat.le_of_eq (congrArg List.length hall), fun _ hstart => ?_, fun _ => hall⟩
          rw [Text.cutAt?_at_start hstart] at h
          cases h

/-! ## §4. Addresses that are read as they were written. -/

/-- A scheme that has no separator in it, and then a host and a path that can be told apart. -/
structure Absolute (url : Url) : Prop where
  scheme_ne : url.scheme ≠ ""
  scheme_free : ¬"://".toList <:+: url.scheme.toList ∧ '?' ∉ url.scheme.toList ∧
    '#' ∉ url.scheme.toList
  host_free : '/' ∉ url.host.toList ∧ '?' ∉ url.host.toList ∧ '#' ∉ url.host.toList
  path_rooted : url.path = "" ∨ ∃ rest, url.path.toList = '/' :: rest

/-- A path alone, in which no scheme ends. -/
structure Relative (url : Url) : Prop where
  scheme_eq : url.scheme = ""
  host_eq : url.host = ""
  path_free : ¬"://".toList <:+: url.path.toList

/-- No part has a separator that would be taken for the one behind it. -/
structure Plain (url : Url) : Prop where
  front : url.Absolute ∨ url.Relative
  path_free : '?' ∉ url.path.toList ∧ '#' ∉ url.path.toList
  query_free : '#' ∉ url.query.toList

variable {url : Url}

theorem Absolute.frontParts_eq (h : url.Absolute) :
    frontParts (authority url.scheme.toList url.host.toList ++ url.path.toList)
      = (url.scheme.toList, url.host.toList, url.path.toList) := by
  have hscheme : url.scheme.toList ≠ [] := mt String.toList_eq_nil_iff.1 h.scheme_ne
  have hpath : url.path.toList = [] ∨ ∃ rest, url.path.toList = '/' :: rest :=
    h.path_rooted.imp_left String.toList_eq_nil_iff.2
  unfold authority frontParts
  rw [if_neg hscheme, List.append_assoc, Text.cutAt?_scheme h.scheme_free.1]
  simp only [hostAndPath_of h.host_free.1 hpath]

theorem Relative.frontParts_eq (h : url.Relative) :
    frontParts (authority url.scheme.toList url.host.toList ++ url.path.toList)
      = (url.scheme.toList, url.host.toList, url.path.toList) := by
  unfold frontParts
  rw [h.scheme_eq, h.host_eq]
  show (match Text.cutAt? "://".toList url.path.toList with
    | some (scheme, after) => (scheme, hostAndPath after)
    | none => ([], [], url.path.toList)) = _
  rw [Text.cutAt?_eq_none_iff.2 h.path_free]
  rfl

/-- A character that is in none of its pieces is not in front of the path. -/
theorem not_mem_authority {c : Char} {scheme host : List Char} (hscheme : c ∉ scheme)
    (hmark : c ∉ "://".toList) (hhost : c ∉ host) : c ∉ authority scheme host := by
  unfold authority
  split
  · exact List.not_mem_nil
  · simp only [List.mem_append, not_or]
    exact ⟨⟨hscheme, hmark⟩, hhost⟩

theorem Plain.front_free (h : url.Plain) {c : Char} (hc : c = '?' ∨ c = '#') :
    c ∉ authority url.scheme.toList url.host.toList ++ url.path.toList := by
  rw [List.mem_append, not_or]
  rcases h.front with habs | hrel
  · rcases hc with rfl | rfl
    · exact ⟨not_mem_authority habs.scheme_free.2.1 (by decide) habs.host_free.2.1, h.path_free.1⟩
    · exact ⟨not_mem_authority habs.scheme_free.2.2 (by decide) habs.host_free.2.2, h.path_free.2⟩
  · rw [hrel.scheme_eq]
    rcases hc with rfl | rfl
    · exact ⟨List.not_mem_nil, h.path_free.1⟩
    · exact ⟨List.not_mem_nil, h.path_free.2⟩

/-- **An address is read as it was written.** -/
theorem ofText_render (h : url.Plain) : ofText url.render = url := by
  have hfront : frontParts (authority url.scheme.toList url.host.toList ++ url.path.toList)
      = (url.scheme.toList, url.host.toList, url.path.toList) :=
    h.front.elim Absolute.frontParts_eq Relative.frontParts_eq
  have hquery : '#' ∉ authority url.scheme.toList url.host.toList ++ url.path.toList
      ++ marked '?' url.query.toList := by
    rw [List.mem_append, not_or]
    refine ⟨h.front_free (.inr rfl), ?_⟩
    unfold marked
    split
    · exact List.not_mem_nil
    · rw [List.mem_cons, not_or]
      exact ⟨by decide, h.query_free⟩
  -- The cuts are undone from the back, in the order in which they are made.
  have hcut := cut_append_marked (show "#".toList = ['#'] from rfl) hquery url.fragment.toList
  have hcut' := cut_append_marked (show "?".toList = ['?'] from rfl) (h.front_free (.inl rfl))
    url.query.toList
  rw [ofText_eq, toList_render]
  simp only [hcut, hcut', hfront, String.ofList_toList]

/-! ## §5. Texts that are written as they were read. -/

/-- Every separator that the text is cut at has something to separate: something is behind the
first `#`, and behind the first `?` in front of it, and something is in front of the first
`://` in front of both. -/
structure Unabridged (s : List Char) : Prop where
  fragment : Followed '#' s
  query : Followed '?' (s.takeWhile (· != '#'))
  scheme : ¬"://".toList <+: (s.takeWhile (· != '#')).takeWhile (· != '?')

/-- **A text is written as it was read** just if no separator in it is idle. -/
theorem render_ofText_iff (s : String) : (ofText s).render = s ↔ Unabridged s.toList := by
  rw [← String.toList_inj, toList_render, ofText_eq]
  simp only [String.toList_ofList]
  have hhash : "#".toList = ['#'] := rfl
  have hmark : "?".toList = ['?'] := rfl
  obtain ⟨hfront, hfrontEq⟩ := authority_append_eq_iff (cut "?" (cut "#" s.toList).1).1
  obtain ⟨hbefore, hbeforeEq⟩ := append_marked_eq_iff hmark hfront
  obtain ⟨-, hallEq⟩ := append_marked_eq_iff hhash hbefore
  rw [hallEq, hbeforeEq, hfrontEq, cut_fst hmark, cut_fst hhash]
  exact ⟨fun ⟨⟨hscheme, hquery⟩, hfragment⟩ => ⟨hfragment, hquery, hscheme⟩,
    fun h => ⟨⟨h.scheme, h.query⟩, h.fragment⟩⟩

/-! ## §6. Requests. -/

theorem path_suffix (s : List Char) : (frontParts s).2.2 <:+ s := by
  unfold frontParts
  cases h : Text.cutAt? "://".toList s with
  | none => exact List.suffix_refl s
  | some parts =>
      rw [Text.eq_append_of_cutAt? h]
      exact (List.dropWhile_suffix _).trans (List.suffix_append _ _)

/-- The query has been cut off the path. -/
theorem mark_not_mem_path (s : String) : '?' ∉ (ofText s).path.toList := by
  rw [ofText_eq]
  simp only [String.toList_ofList]
  intro hmem
  have hfront := (path_suffix _).subset hmem
  rw [cut_fst (show "?".toList = ['?'] from rfl)] at hfront
  exact absurd (List.mem_takeWhile_imp hfront) (by decide)

/-- What is asked for is the path, or `/`, and the query if there is one. -/
theorem requestTarget_eq (url : Url) :
    url.requestTarget
      = (if url.path = "" then "/" else url.path)
        ++ (if url.query = "" then "" else "?" ++ url.query) := by
  unfold requestTarget
  by_cases hquery : url.query = ""
  · simp only [if_pos hquery, String.append_empty]
  · simp only [if_neg hquery, String.append_assoc]

/-- A query is asked for just if there is one. -/
theorem mark_mem_requestTarget_iff (h : '?' ∉ url.path.toList) :
    '?' ∈ url.requestTarget.toList ↔ url.query ≠ "" := by
  have hpath : '?' ∉ (if url.path = "" then "/" else url.path).toList := by
    split
    · decide
    · exact h
  rw [requestTarget_eq, String.toList_append, List.mem_append, or_iff_right hpath]
  by_cases hquery : url.query = ""
  · rw [if_pos hquery]
    exact iff_of_false List.not_mem_nil (not_not_intro hquery)
  · rw [if_neg hquery, String.toList_append]
    exact iff_of_true (List.mem_append_left _ List.mem_cons_self) hquery

/-! ## §7. Both ways. -/

/-- **Reading undoes writing, and writing loses only idle separators.**  An address is read as
it was written if no part of it has a separator that would be taken for another.  A text is
written as it was read if, and only if, all its separators have something to separate.  And what
a request asks for is the path that was read, or `/`, and the query just if there is one. -/
theorem read_and_rendered :
    (∀ url : Url, url.Plain → ofText url.render = url) ∧
    (∀ s : String, (ofText s).render = s ↔ Unabridged s.toList) ∧
    (∀ s : String,
      (ofText s).requestTarget
          = (if (ofText s).path = "" then "/" else (ofText s).path)
            ++ (if (ofText s).query = "" then "" else "?" ++ (ofText s).query) ∧
        ('?' ∈ (ofText s).requestTarget.toList ↔ (ofText s).query ≠ "")) :=
  ⟨fun _ => ofText_render, render_ofText_iff, fun s =>
    ⟨requestTarget_eq _, mark_mem_requestTarget_iff (mark_not_mem_path s)⟩⟩

/-- An address with separators in places where they do not separate. -/
def sampleAddress : Url :=
  { scheme := "a:/", host := "b::1", path := "/c://d", query := "?e://", fragment := "?#" }

/-- The sample address is read as it was written, and a text of that kind is written as it was
read. -/
theorem sampleAddress_both_ways :
    (sampleAddress.Plain ∧ ofText sampleAddress.render = sampleAddress) ∧
      Unabridged "c:/://d/?e?#?".toList ∧ (ofText "c:/://d/?e?#?").render = "c:/://d/?e?#?" := by
  have hplain : sampleAddress.Plain :=
    { front := .inl
        { scheme_ne := by decide
          scheme_free := by decide
          host_free := by decide
          path_rooted := .inr ⟨"c://d".toList, rfl⟩ }
      path_free := by decide
      query_free := by decide }
  have hwhole : Unabridged "c:/://d/?e?#?".toList :=
    { fragment := (followed_iff (show '#' ∉ "c:/://d/?e?".toList by decide)).2
        (List.cons_ne_nil '?' [])
      query := (followed_iff (show '?' ∉ "c:/://d/".toList by decide)).2
        (List.cons_ne_nil 'e' ['?'])
      scheme := by decide }
  exact ⟨⟨hplain, read_and_rendered.1 _ hplain⟩, hwhole, (read_and_rendered.2.1 _).2 hwhole⟩

end RuleScript.Web.Url
