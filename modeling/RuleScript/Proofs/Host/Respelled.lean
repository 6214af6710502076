/-
  RuleScript.Proofs.Host.Respelled
  ────────────────────────────────
  **Reads, writes and clears in another case.**

  Two paths that are equal up to the case of `A` to `Z` go down together, also where
  a record declares a name twice or a map has a key twice in different cases: the
  first of them is the first for every spelling.  They stop together as well, and what
  an error quotes of a path is all that shows how it was spelled.  Only a key that a
  write puts in is spelled as the path has it.

  Main results:
    • `Stops.respelled` — a value that stops a path stops it in every spelling.
    • `write_respelled` — writes fail alike, and leave the same but for a new key.
    • `paths_caseless` — reads, clears and writes.
-/
import RuleScript.Proofs.Host.Case
import RuleScript.Proofs.Host.Effects

namespace RuleScript

/-! ## §1. Errors. -/

/-- The error with what it quotes of the path in lower case.  A container that cannot take a
new key quotes that key in the place of a type. -/
def PathError.folded : PathError → PathError
  | .notFound segment kind typeName => .notFound (Text.lowered segment) kind typeName
  | .invalidIndex segment typeName => .invalidIndex (Text.lowered segment) typeName
  | .pastScalar segment kind => .pastScalar (Text.lowered segment) kind
  | .notConstructible segment => .notConstructible (Text.lowered segment)
  | e => e

namespace Host

/-- A change, with what its error quotes of the path in lower case. -/
def Changed.folded (changed : Changed) : Changed :=
  ⟨changed.host, changed.failure.map PathError.folded⟩

section
variable {h : Host} {segment segment' : String} {e : PathError}

/-- **A value that stops a path stops it in every spelling.** -/
theorem Stops.respelled (hstops : Stops h segment e)
    (hsame : Text.sameName segment segment' = true) :
    ∃ e', Stops h segment' e' ∧ e.folded = e'.folded := by
  have hlowered := Text.lowered_congr hsame
  cases hstops with
  | scalar hscalar =>
      refine ⟨_, .scalar hscalar, ?_⟩
      simp only [PathError.folded, hlowered]
  | field hnone =>
      rw [Layout.child?_congr hsame] at hnone
      refine ⟨_, .field hnone, ?_⟩
      simp only [PathError.folded, hlowered]
  | fixedKey hnone =>
      rw [Layout.child?_congr hsame] at hnone
      refine ⟨_, .fixedKey hnone, ?_⟩
      simp only [PathError.folded, hlowered]
  | entry hnone =>
      rw [entry?_congr hsame] at hnone
      refine ⟨_, .entry hnone, ?_⟩
      simp only [PathError.folded, hlowered]
  | position hnone =>
      rw [position?_congr hsame] at hnone
      refine ⟨_, .position hnone, ?_⟩
      simp only [PathError.folded, hlowered]
  | element hposition hnone =>
      rw [position?_congr hsame] at hposition
      exact ⟨_, .element hposition hnone, rfl⟩
  | absent => exact ⟨_, .absent, rfl⟩

end

/-- What a clear makes of an error does not hang on the spelling. -/
theorem clearedAt_folded (h : Host) (e : PathError) :
    (h.clearedAt e).folded = h.clearedAt e.folded := by
  cases e <;> rfl

/-! ## §2. Reads and clears. -/

section
variable {p p' : List String}

theorem read_respelled (h : Host) (hsame : SamePath p p') :
    (h.read p).mapError PathError.folded = (h.read p').mapError PathError.folded := by
  induction h, p using descent_induction [] generalizing p' with
  | hstep h p ih _ =>
      cases p with
      | nil => rw [samePath_nil hsame]
      | cons segment rest =>
          rcases descends_or_stops h segment rest with ⟨d, hd⟩ | ⟨e, hstops⟩
          · obtain ⟨rest', hrest, hd'⟩ := hd.respelled hsame
            rw [hd.read_eq, hd'.read_eq]
            exact ih d hd hrest
          · obtain ⟨segment', rest', rfl, hsegment, -⟩ := samePath_cons hsame
            obtain ⟨e', hstops', hfolded⟩ := hstops.respelled hsegment
            rw [hstops.read_eq, hstops'.read_eq]
            exact congrArg Except.error hfolded

/-- Whether a clear ends at a part as a whole does not hang on the spelling of the path. -/
theorem endsWhole_respelled (h : Host) (hsame : SamePath p p') :
    h.endsWhole p = h.endsWhole p' := by
  cases p with
  | nil => rw [samePath_nil hsame]
  | cons segment rest =>
      obtain ⟨segment', rest', rfl, -, hrest⟩ := samePath_cons hsame
      cases rest with
      | nil =>
          rw [samePath_nil hrest]
          cases h <;> rfl
      | cons next rest =>
          obtain ⟨next', rest', rfl, -, -⟩ := samePath_cons hrest
          cases h <;> rfl

theorem clear_respelled (h : Host) (hsame : SamePath p p') :
    (h.clear p).folded = (h.clear p').folded := by
  induction h, p using descent_induction [] generalizing p' with
  | hstep h p ih _ =>
      cases p with
      | nil => rw [samePath_nil hsame]
      | cons segment rest =>
          have hends := endsWhole_respelled h hsame
          obtain ⟨segment', others, rfl, hsegment, hothers⟩ := samePath_cons hsame
          rcases descends_or_stops h segment rest with ⟨d, hd⟩ | ⟨e, hstops⟩
          · obtain ⟨rest', hrest, hd'⟩ := hd.respelled hsame
            cases hgoes : h.endsWhole (segment :: rest) with
            | false =>
                rw [hgoes] at hends
                -- An error in the part quotes what it quotes, whatever is around the part.
                rw [hd.clear_eq hgoes, hd'.clear_eq hends.symm]
                show (d.child.clear d.rest).folded.map d.rebuild = _
                rw [ih d hd hrest]
                rfl
            | true =>
                -- A key is found as it is stored, and goes or stays in any spelling.
                obtain ⟨rfl, hkey⟩ := hd.hasKey hgoes
                rw [samePath_nil hothers]
                cases hkey with
                | fixed hslot hcell =>
                    rw [clear_fixedKey hslot hcell]
                    rw [Layout.slot?_congr hsegment] at hslot
                    rw [clear_fixedKey hslot hcell]
                | entry hentry =>
                    rw [clear_entry hentry]
                    rw [entry?_congr hsegment] at hentry
                    rw [clear_entry hentry]
          · obtain ⟨e', hstops', hfolded⟩ := hstops.respelled hsegment
            rw [hstops.clear_eq, hstops'.clear_eq, clearedAt_folded, clearedAt_folded, hfolded]

end

/-! ## §3. Writes. -/

/-- Two writes in different cases leave the same, unless they have put a key in: then what
they leave differs in the case of that key. -/
inductive UpToNewKey (catalog : Catalog) :
    Host → List String → List String → Host → Host → Prop
  | same {h after : Host} {p p' : List String} : UpToNewKey catalog h p p' after after
  | created {kind : MapKind} {type : EntryType} {entries : List (String × Host)}
      {segment segment' : String} {new : Host} (hnone : entry? entries segment = none)
      (hsame : Text.sameName segment segment' = true) :
      UpToNewKey catalog (.map kind type entries) [segment] [segment']
        (.map kind type (Sorted.put segment new entries))
        (.map kind type (Sorted.put segment' new entries))
  | into {h after after' : Host} {p p' rest' : List String} {d : Descent}
      (hd : Descends h p d) (hd' : Descends h p' { d with rest := rest' })
      (hrest : UpToNewKey catalog d.child d.rest rest' after after') :
      UpToNewKey catalog h p p' (d.rebuild after) (d.rebuild after')
  | filled {inner : Shape} {content after after' : Host} {p p' : List String}
      (hempty : inner.empty? catalog = some content)
      (hrest : UpToNewKey catalog content p p' after after') :
      UpToNewKey catalog (.absent inner) p p' (.present inner after) (.present inner after')

section
variable {p p' : List String}

theorem isEmpty_respelled (hsame : SamePath p p') : p.isEmpty = p'.isEmpty := by
  cases p with
  | nil => rw [samePath_nil hsame]
  | cons segment rest =>
      obtain ⟨segment', rest', rfl, -, -⟩ := samePath_cons hsame
      rfl

/-- Where a value that is not an absent optional stops a path, a write is refused, or puts a
key in, in every spelling. -/
theorem Stops.write_respelled {h : Host} {segment segment' : String} {rest rest' : List String}
    {e : PathError} (catalog : Catalog) (text : String) (hstops : Stops h segment e)
    (hfilled : ∀ inner, h ≠ .absent inner) (hsegment : Text.sameName segment segment' = true)
    (hrest : SamePath rest rest') :
    (h.write catalog text (segment :: rest)).failure.map PathError.folded
        = (h.write catalog text (segment' :: rest')).failure.map PathError.folded ∧
      UpToNewKey catalog h (segment :: rest) (segment' :: rest')
        (h.write catalog text (segment :: rest)).host
        (h.write catalog text (segment' :: rest')).host := by
  have hlowered := Text.lowered_congr hsegment
  cases hstops with
  | @scalar _ _ kind hscalar =>
      rw [write_past_scalar catalog text hscalar, write_past_scalar catalog text hscalar]
      refine ⟨congrArg some ?_, .same⟩
      simp only [PathError.folded, hlowered]
  | field hnone =>
      have hnone' := hnone
      rw [Layout.child?_congr hsegment] at hnone'
      rw [write, write]
      simp only [hnone, hnone']
      refine ⟨congrArg some ?_, .same⟩
      simp only [PathError.folded, hlowered]
  | fixedKey hnone =>
      have hnone' := hnone
      rw [Layout.child?_congr hsegment] at hnone'
      rw [write, write]
      simp only [hnone, hnone', isEmpty_respelled hrest, Text.sameName_congr hsegment]
      split
      · refine ⟨congrArg some ?_, .same⟩
        simp only [PathError.folded, hlowered]
      · refine ⟨congrArg some ?_, .same⟩
        simp only [PathError.folded, hlowered]
  | @entry kind type entries _ hnone =>
      have hnone' := hnone
      rw [entry?_congr hsegment] at hnone'
      rw [write, write]
      simp only [hnone, hnone', isEmpty_respelled hrest]
      split
      · next hend =>
        -- Both paths end here, and both writes put a key in, or neither does.
        rw [← isEmpty_respelled hrest, List.isEmpty_iff] at hend
        subst hend
        rw [samePath_nil hrest]
        cases hmake : type.make text with
        | ok new => exact ⟨rfl, .created hnone hsegment⟩
        | error fault => exact ⟨rfl, .same⟩
      · refine ⟨congrArg some ?_, .same⟩
        simp only [PathError.folded, hlowered]
  | position hnone =>
      have hnone' := hnone
      rw [position?_congr hsegment] at hnone'
      rw [write, write]
      simp only [hnone, hnone']
      refine ⟨congrArg some ?_, .same⟩
      simp only [PathError.folded, hlowered]
  | element hposition hnone =>
      have hposition' := hposition
      rw [position?_congr hsegment] at hposition'
      rw [write, write]
      simp only [hposition, hposition', hnone]
      exact ⟨trivial, .same⟩
  | absent => exact absurd rfl (hfilled _)

/-- **Writes in different cases** fail alike, and leave the same but for the case of a key
that they have put in. -/
theorem write_respelled (catalog : Catalog) (text : String) (h : Host) (hsame : SamePath p p') :
    (h.write catalog text p).failure.map PathError.folded
        = (h.write catalog text p').failure.map PathError.folded ∧
      UpToNewKey catalog h p p' (h.write catalog text p).host (h.write catalog text p').host := by
  induction h, p using descent_induction catalog generalizing p' with
  | hstep h p ih ihFilled =>
      by_cases hfilled : ∃ inner, h = .absent inner
      · obtain ⟨inner, rfl⟩ := hfilled
        cases hempty : inner.empty? catalog with
        | none =>
            rw [write_absent_none hempty, write_absent_none hempty]
            exact ⟨rfl, .same⟩
        | some content =>
            obtain ⟨hfailure, hhost⟩ := ihFilled inner content rfl hempty hsame
            rw [write_absent_some hempty, write_absent_some hempty]
            exact ⟨hfailure, .filled hempty hhost⟩
      cases p with
      | nil =>
          rw [samePath_nil hsame]
          exact ⟨rfl, .same⟩
      | cons segment rest =>
          rcases descends_or_stops h segment rest with ⟨d, hd⟩ | ⟨e, hstops⟩
          · obtain ⟨rest', hrest, hd'⟩ := hd.respelled hsame
            obtain ⟨hfailure, hhost⟩ := ih d hd hrest
            rw [hd.write_eq, hd'.write_eq]
            exact ⟨hfailure, .into hd hd' hhost⟩
          · obtain ⟨segment', rest', rfl, hsegment, hrest⟩ := samePath_cons hsame
            exact hstops.write_respelled catalog text (not_exists.1 hfilled) hsegment hrest

/-- **Paths have no case below the root.**  On two paths that are equal up to case, reads give
the same value or the same error, clears leave the same value and fail alike, and so do
writes, but for the case of a key that they have put in.  An error quotes the path as it is
spelled. -/
theorem paths_caseless (catalog : Catalog) (h : Host) (hsame : SamePath p p') :
    (h.read p).mapError PathError.folded = (h.read p').mapError PathError.folded ∧
    (h.clear p).folded = (h.clear p').folded ∧
    ∀ text,
      (h.write catalog text p).failure.map PathError.folded
          = (h.write catalog text p').failure.map PathError.folded ∧
        UpToNewKey catalog h p p'
          (h.write catalog text p).host (h.write catalog text p').host := by
  refine ⟨read_respelled h hsame, clear_respelled h hsame, ?_⟩
  intro text
  exact write_respelled catalog text h hsame

end

/-- A record that declares a name in two cases, with a map that has a key in two cases. -/
def sampleClash : Host :=
  .record ⟨"Clash", [("Tags", some 0), ("TAGS", some 1)]⟩
    [.map .ordered .string [("KEY", .string "x"), ("key", .string "y")], .string "z"]

/-- The first field and the first key are found in every case. -/
theorem sampleClash_paths_caseless :
    SamePath ["tags", "key"] ["TAGS", "Key"] ∧
    (sampleClash.read ["TAGS", "Key"]).mapError PathError.folded = .ok (.string "x") ∧
    ∀ text, (sampleClash.write [] text ["TAGS", "Key"]).failure.map PathError.folded = none := by
  have hsame : SamePath ["tags", "key"] ["TAGS", "Key"] := by decide
  obtain ⟨hread, -, hwrite⟩ := paths_caseless [] sampleClash hsame
  have hd : Descends sampleClash ["tags", "key"] _ := .field rfl rfl
  have hkey : Descends (.map .ordered .string [("KEY", .string "x"), ("key", .string "y")])
      ["key"] _ := .entry rfl
  refine ⟨hsame, ?_, ?_⟩
  · rw [← hread, hd.read_eq, hkey.read_eq, read_nil_of_value? rfl]
    rfl
  · intro text
    rw [← (hwrite text).1, hd.write_eq, hkey.write_eq, write]
    rfl

end Host

end RuleScript
