/-
  RuleScript.Proofs.Run.Stability
  ───────────────────────────────
  **What a run keeps of its environment.**

  A statement writes once, clears once, adds one variable, or leaves the environment
  alone.  What each of these keeps is therefore kept by a run of any length, whether it
  succeeds or fails: roots stay bound to values of their types, values stay well typed,
  and keys stay distinct; the only roots that appear are the variables of declarations
  that have been carried out.

  Main results:
    • `State.affects_step` — what one statement does to the environment.
    • `runStatements_invariant` — induction over a run, with what has been run before.
    • `keepsShapes_run` — the invariant, from its cases.
    • `run_keeps_shapes` — what whole runs and single writes keep.
-/
import Mathlib
import RuleScript.Proofs.Environment.Typing
import RuleScript.Regex.Replace
import RuleScript.Run.Machine

namespace RuleScript

open Script (Located Statement)

/-! ## §1. One statement. -/

/-- The second environment is what is left of the first one by a statement that adds no root. -/
inductive Environment.Changes (env : Environment) : Environment → Prop
  | kept : Changes env env
  | written (path text : String) : Changes env (env.write path text).1
  | cleared (path : String) : Changes env (env.clear path).1

/-- The statement declares a variable, and it is carried out here. -/
structure State.Declares (settings : Settings) (s : State) (item : Located)
    (name value : String) : Prop where
  statement : item.statement = .declare name value
  active : s.active = true
  succeeds : (s.step settings item).fault = none

/-- What a statement makes of the environment. -/
inductive State.Affects (settings : Settings) (s : State) (item : Located) : Environment → Prop
  | changes {after : Environment} (hchanges : s.env.Changes after) : Affects settings s item after
  | declared {name value : String} (hdeclares : s.Declares settings item name value)
      (hnew : s.env.contains name = false) :
      Affects settings s item (s.env.own name (.string value))

namespace State

variable {settings : Settings} {s : State}

theorem changes_write (s : State) (path text : String) :
    s.env.Changes (s.write path text).state.env :=
  .written path text

theorem changes_assign (s : State) (path word : String) :
    s.env.Changes (s.assign path word).state.env := by
  unfold assign
  split
  · exact changes_write s path _
  · exact .kept

theorem changes_replace (s : State) (path pattern replacement : String) :
    s.env.Changes (s.replace settings path pattern replacement).state.env := by
  unfold replace
  split
  · exact changes_write s path _
  · exact .kept

theorem changes_unset (s : State) (path : String) :
    s.env.Changes (s.unset path).state.env :=
  .cleared path

theorem changes_whereActive {run : State → Outcome}
    (h : ∀ s : State, s.env.Changes (run s).state.env) :
    s.env.Changes (s.whereActive run).state.env := by
  unfold whereActive
  split
  · exact h (s.mapTop .runNext)
  · exact .kept

theorem changes_change (target : String) (step : Script.Change) :
    s.env.Changes (s.change settings target step).state.env := by
  unfold change
  split
  · exact .kept
  cases step with
  | assign value => exact changes_whereActive (changes_assign · target value)
  | unset => exact changes_whereActive (changes_unset · target)
  | replace pattern replacement =>
      exact changes_whereActive (changes_replace · target pattern replacement)
  | incomplete missing => exact .kept
  | unknown operator =>
      show s.env.Changes (if s.knows target = true then _ else _ : Outcome).state.env
      split <;> exact .kept

theorem env_evaluate (keyword left operator right : String) :
    (s.evaluate settings keyword left operator right).state.env = s.env := by
  unfold evaluate
  split <;> rfl

theorem env_condition (link : Script.Link) (left operator right : String) :
    (s.condition settings link left operator right).state.env = s.env := by
  unfold condition
  split
  · rfl
  cases link with
  | opening => exact env_evaluate ..
  | following =>
      show (if s.frames.top.chainHeld = true then _ else _ : Outcome).state.env = _
      split
      · rfl
      · exact env_evaluate ..

/-- A declaration adds its variable, or changes nothing. -/
theorem affects_declare (line : Nat) (name value : String) :
    s.Affects settings ⟨line, .declare name value⟩ (s.declare name value).state.env := by
  by_cases ha : s.active = true
  · by_cases hknown : s.env.contains name = true
    · have hfail : s.declare name value = (s.mapTop .runNext).fail (.alreadyDeclared name) := by
        rw [declare_eq_whereActive]
        unfold whereActive
        rw [if_pos ha]
        exact if_pos hknown
      rw [hfail]
      exact .changes .kept
    · have hok : s.declare name value
          = State.ok { s.mapTop .runNext with env := s.env.own name (.string value) } := by
        rw [declare_eq_whereActive]
        unfold whereActive
        rw [if_pos ha]
        exact if_neg hknown
      have hsucceeds : (s.step settings ⟨line, .declare name value⟩).fault = none := by
        show (s.declare name value).fault = none
        rw [hok]
        rfl
      rw [hok]
      exact .declared ⟨rfl, ha, hsucceeds⟩ (Bool.eq_false_iff.2 hknown)
  · have hskip : s.declare name value = s.ok := by
      rw [declare_eq_whereActive]
      unfold whereActive
      exact if_neg ha
    rw [hskip]
    exact .changes .kept

/-- **A statement writes, clears, declares or leaves the environment alone**, also if it
fails. -/
theorem affects_step (settings : Settings) (s : State) (item : Located) :
    s.Affects settings item (s.step settings item).state.env := by
  obtain ⟨line, statement⟩ := item
  cases statement with
  | blank => exact .changes .kept
  | otherwise => exact .changes .kept
  | openBlock => exact .changes .kept
  | incomplete keyword missing => exact .changes .kept
  | condition link left operator right =>
      show s.Affects settings _ (s.condition settings link left operator right).state.env
      rw [env_condition]
      exact .changes .kept
  | change target step => exact .changes (changes_change target step)
  | closeBlock =>
      cases hp : s.frames.pop? with
      | some frames =>
          rw [step_close hp]
          exact .changes .kept
      | none =>
          rw [step_unmatched hp]
          exact .changes .kept
  | declare name value => exact affects_declare line name value
  | log message =>
      show s.Affects settings _ (s.logEntry settings line message).state.env
      rw [logEntry_eq_whereActive]
      refine .changes (changes_whereActive fun s => ?_)
      split <;> exact .kept

end State

/-! ## §2. What a change keeps. -/

namespace Environment

variable {schema : Host.Schema} {env after : Environment}

theorem Changes.continues (h : env.Changes after) : env.Continues after := by
  cases h with
  | kept => exact .refl env
  | written path text => exact continues_write env path text
  | cleared path => exact continues_clear env path

theorem Changes.wellTyped (h : env.Changes after) (htyped : env.WellTyped schema) :
    after.WellTyped schema := by
  cases h with
  | kept => exact htyped
  | written path text => exact htyped.write path text
  | cleared path => exact htyped.clear path

theorem Changes.distinct (h : env.Changes after) (htyped : env.WellTyped schema)
    (hdistinct : env.Distinct) : after.Distinct := by
  cases h with
  | kept => exact hdistinct
  | written path text => exact hdistinct.write path text
  | cleared path => exact hdistinct.clear htyped path

/-- No root appears where none was. -/
theorem Changes.find?_eq_none (h : env.Changes after) {name : String}
    (hnone : env.find? name = none) : after.find? name = none := by
  cases h with
  | kept => exact hnone
  | written path text => exact (atOneRoot_write env path text).find?_eq_none hnone
  | cleared path => exact (atOneRoot_clear env path).find?_eq_none hnone

end Environment

/-! ## §3. Runs. -/

/-- **Induction over a run.**  What holds at its start and of what each statement leaves,
given what has been run before it, holds at its end. -/
theorem runStatements_invariant {settings : Settings} {start : State} {items : List Located}
    {P : State → Prop} (hstart : P start)
    (hstep : ∀ done item rest s, items = done ++ item :: rest →
      runStatements settings start done = ⟨s, none⟩ → P s → P (s.step settings item).state) :
    P (runStatements settings start items).state := by
  -- The statements are cut into those that have been run, and those that are left.
  have hrest (rest done : List Located) (s : State) (hitems : items = done ++ rest)
      (hdone : runStatements settings start done = ⟨s, none⟩) (hs : P s) :
      P (runStatements settings s rest).state := by
    induction rest generalizing done s with
    | nil => exact hs
    | cons item rest ih =>
        have hnext := hstep done item rest s hitems hdone hs
        cases hfault : (s.step settings item).fault with
        | some fault =>
            rw [runStatements_stops hfault]
            exact hnext
        | none =>
            rw [runStatements_goesOn hfault]
            refine ih (done ++ [item]) _ ?_ ?_ hnext
            · rw [hitems, List.append_assoc, List.singleton_append]
            · rw [runStatements_append, hdone]
              exact runStatements_goesOn hfault []
  exact hrest items [] start rfl rfl hstart

/-- The script declares the variable in a statement that the run comes to and carries out. -/
def DeclaredIn (settings : Settings) (env : Environment) (script : List UInt8) (name : String) :
    Prop :=
  ∃ done item rest s value, Script.statements script = done ++ item :: rest ∧
    runStatements settings (.start env) done = ⟨s, none⟩ ∧ s.Declares settings item name value

/-- A value that shows the type of texts is a text. -/
theorem Host.eq_string_of_shape {h : Host} (hshape : h.shape = .string) :
    ∃ text, h = .string text := by
  cases h with
  | string text => exact ⟨text, rfl⟩
  | integer | boolean | bytes | record | fixed | map | sequence | absent | present =>
      cases hshape

/-- Every root that there is now and was not before is a text, and the variable of a
declaration that has been carried out. -/
def Environment.OnlyDeclared (settings : Settings) (env : Environment) (script : List UInt8)
    (now : Environment) : Prop :=
  ∀ name root, env.find? name = none → now.find? name = some root →
    (∃ text, root = ⟨.string text, false⟩) ∧ DeclaredIn settings env script name

section
variable {settings : Settings} {env : Environment} {script : List UInt8}

theorem Environment.OnlyDeclared.changes {now after : Environment}
    (h : env.OnlyDeclared settings script now) (hchanges : now.Changes after) :
    env.OnlyDeclared settings script after := by
  intro name root hnone hroot
  cases hold : now.find? name with
  | none =>
      rw [hchanges.find?_eq_none hold] at hroot
      cases hroot
  | some root' =>
      obtain ⟨⟨text, rfl⟩, hdeclared⟩ := h name root' hnone hold
      obtain ⟨host, hhost, hshape⟩ := hchanges.continues.roots name _ hold
      obtain ⟨text', rfl⟩ := Host.eq_string_of_shape hshape
      rw [hhost] at hroot
      cases hroot
      exact ⟨⟨text', rfl⟩, hdeclared⟩

theorem Environment.OnlyDeclared.own {now : Environment} {name value : String}
    (h : env.OnlyDeclared settings script now) (hdeclared : DeclaredIn settings env script name) :
    env.OnlyDeclared settings script (now.own name (.string value)) := by
  intro other root hnone hroot
  by_cases hname : other = name
  · subst hname
    rw [find?_own_self] at hroot
    cases hroot
    exact ⟨⟨value, rfl⟩, hdeclared⟩
  · rw [find?_own_of_ne hname] at hroot
    exact h other root hnone hroot

/-- What holds of the environment at every point of the run of a script. -/
structure Environment.KeepsShapes (schema : Host.Schema) (settings : Settings)
    (env : Environment) (script : List UInt8) (now : Environment) : Prop where
  continues : env.Continues now
  onlyDeclared : env.OnlyDeclared settings script now
  wellTyped : now.WellTyped schema
  distinct : env.Distinct → now.Distinct

variable {schema : Host.Schema}

theorem Environment.KeepsShapes.refl (htyped : env.WellTyped schema) :
    env.KeepsShapes schema settings script env where
  continues := .refl env
  onlyDeclared := by
    intro name root hnone hroot
    rw [hnone] at hroot
    cases hroot
  wellTyped := htyped
  distinct := id

theorem Environment.KeepsShapes.changes {now after : Environment}
    (h : env.KeepsShapes schema settings script now) (hchanges : now.Changes after) :
    env.KeepsShapes schema settings script after where
  continues := h.continues.trans hchanges.continues
  onlyDeclared := h.onlyDeclared.changes hchanges
  wellTyped := hchanges.wellTyped h.wellTyped
  distinct hdistinct := hchanges.distinct h.wellTyped (h.distinct hdistinct)

theorem Environment.KeepsShapes.own {now : Environment} {name : String}
    (h : env.KeepsShapes schema settings script now) (hnew : now.contains name = false)
    (hdeclared : DeclaredIn settings env script name) (value : String) :
    env.KeepsShapes schema settings script (now.own name (.string value)) where
  continues := h.continues.trans (continues_own hnew _)
  onlyDeclared := h.onlyDeclared.own hdeclared
  wellTyped := h.wellTyped.own _ _
  distinct hdistinct := (h.distinct hdistinct).own _ _

/-- One step keeps the shapes, and so does a run. -/
theorem keepsShapes_run (htyped : env.WellTyped schema) :
    env.KeepsShapes schema settings script (run settings env script).state.env := by
  rw [state_run]
  refine runStatements_invariant
    (P := fun s => env.KeepsShapes schema settings script s.env) (.refl htyped) ?_
  intro done item rest s hitems hdone hkeeps
  have haffects := State.affects_step settings s item
  generalize (s.step settings item).state.env = next at haffects ⊢
  cases haffects with
  | changes hchanges => exact hkeeps.changes hchanges
  | declared hdeclares hnew =>
      exact hkeeps.own hnew ⟨done, item, rest, s, _, hitems, hdone, hdeclares⟩ _

end

/-- **The shape of an environment is invariant over whole runs**, whether they succeed or
fail.  Every root that was bound is bound still, as it was and to a value of its type, and
whoever is new is a text that a declaration has introduced; all values are well typed.  No
single write or clear changes the length of a sequence that stays, and a sequence that a
write makes has one element on every level, unless an empty record brings it.  Keys that
were distinct up to case are so still. -/
theorem run_keeps_shapes {schema : Host.Schema} {settings : Settings} {env : Environment}
    {script : List UInt8} (htyped : env.WellTyped schema) :
    let after := (run settings env script).state.env
    env.Continues after ∧ env.OnlyDeclared settings script after ∧
    after.WellTyped schema ∧
    (∀ (now : Environment) (path text : String),
      (∀ place part, now.at? place = some part →
        ∃ part', (now.write path text).1.at? place = some part' ∧ part'.size? = part.size?) ∧
      (∀ place part size, now.at? place = none →
        (now.write path text).1.at? place = some part → part.size? = some size →
          now.NewSize (now.write path text).1 place size)) ∧
    (∀ (now : Environment) (path : String), now.WellTyped schema →
      ∀ place part, (now.clear path).1.at? place = some part →
        ∃ part', now.at? place = some part' ∧ part.size? = part'.size?) ∧
    (env.Distinct → after.Distinct) := by
  intro after
  obtain ⟨hcontinues, honly, hwell, hdistinct⟩ :=
    @keepsShapes_run settings env script schema htyped
  refine ⟨hcontinues, honly, hwell, ?_, ?_, hdistinct⟩
  · intro now path text
    refine ⟨?_, ?_⟩
    · intro place part hpart
      obtain ⟨part', hpart', halike⟩ := Environment.write_keeps_alike now path text hpart
      exact ⟨part', hpart', halike.size⟩
    · intro place part size hnone hpart hsize
      exact Environment.write_new_size now path text hnone hpart hsize
  · intro now path hnow place part hpart
    obtain ⟨part', hpart', halike⟩ := Environment.clear_kept_alike hnow path hpart
    exact ⟨part', hpart', halike.size.symm⟩

/-- The fields of an item. -/
def sampleFields : Host.Layout := .ofFields "Item" ["Name", "Tags"]

/-- An item has a name and a list of tags. -/
def sampleSchema : Host.Schema
  | "Item" => some ⟨false, sampleFields, [.string, .sequence .string]⟩
  | _ => none

/-- A root with one tag. -/
def sampleItem : Environment :=
  ⟨[], [("item", ⟨.record sampleFields [.string "a", .sequence .string [.string "b"]], true⟩)], []⟩

/-- A script that declares a variable and puts it in place of the tag. -/
def sampleTagging : List UInt8 := Utf8.encode "var v 1\nitem.tags = $(v)\nitem.name unset"

theorem sampleItem_wellTyped : sampleItem.WellTyped sampleSchema := by
  refine ⟨nofun, ?_⟩
  intro name root hroot
  obtain ⟨rfl, rfl⟩ := Prod.mk.inj (List.mem_singleton.1 (Host.mem_of_lookup hroot))
  have htags : Host.Typed sampleSchema (.sequence .string [.string "b"]) :=
    .sequence (by simp [Host.shape]) (by simp [Host.Typed.string])
  exact .record (by decide) (by simp [Host.Typed.string, htags])

/-- The item keeps its type, and the variable that is new has been declared. -/
theorem sampleItem_keeps_shapes :
    sampleItem.WellTyped sampleSchema ∧
    (run (.plain Regex.engine) sampleItem sampleTagging).state.env.WellTyped sampleSchema ∧
    DeclaredIn (.plain Regex.engine) sampleItem sampleTagging "v" := by
  obtain ⟨-, honly, htyped, -⟩ := @run_keeps_shapes sampleSchema (.plain Regex.engine) sampleItem
    sampleTagging sampleItem_wellTyped
  refine ⟨sampleItem_wellTyped, htyped, ?_⟩
  exact (honly "v" ⟨.string "1", false⟩ (by cbv) (by cbv)).2

/-- The fields of a node. -/
def sampleLayout : Host.Layout := .ofFields "Node" ["Name", "Kids", "Attrs"]

/-- An empty node has no kids, and two attributes whose names differ in case. -/
def sampleNode : Host.Blueprint :=
  ⟨sampleLayout, [.string "", .sequence (.record "Node") [],
    .map .ordered .string [("KEY", .string ""), ("key", .string "")]]⟩

/-- The types of what is in a node. -/
def sampleNodes : Host.Schema
  | "Node" => some ⟨false, sampleLayout,
      [.string, .sequence (.record "Node"), .map .ordered .string]⟩
  | _ => none

/-- A root that holds no node yet. -/
def sampleVacant : Environment := ⟨[sampleNode], [("o", ⟨.absent (.record "Node"), true⟩)], []⟩

theorem sampleVacant_wellTyped : sampleVacant.WellTyped sampleNodes := by
  have hkids : Host.Typed sampleNodes (.sequence (.record "Node") []) := .sequence nofun nofun
  have hattrs : Host.Typed sampleNodes
      (.map .ordered .string [("KEY", .string ""), ("key", .string "")]) :=
    .map (by decide) (by simp [Host.shape, Host.EntryType.shape]) (by simp [Host.Typed.string])
  refine ⟨?_, ?_⟩
  · intro blueprint hmem
    rw [List.mem_singleton.1 hmem]
    exact .record (by decide) (by simp [sampleNode, Host.Typed.string, hkids, hattrs])
  · intro name root hroot
    obtain ⟨rfl, rfl⟩ := Prod.mk.inj (List.mem_singleton.1 (Host.mem_of_lookup hroot))
    exact .absent _

/-- **An empty record brings the sequences and the keys that are in it.**  The roots have
no two keys that are the same up to case; one write fills the optional with a node, which
has a sequence without elements, and two such keys. -/
theorem filled_record_brings_its_own :
    sampleVacant.WellTyped sampleNodes ∧
    (∀ name root, sampleVacant.find? name = some root → root.host.Distinct) ∧
    let after := (run (.plain Regex.engine) sampleVacant (Utf8.encode "o.name = x")).state.env
    after = (sampleVacant.write "o.name" "x").1 ∧
    sampleVacant.at? [.root "o", .content, .field "Kids"] = none ∧
    (after.at? [.root "o", .content, .field "Kids"]).bind (·.size?) = some 0 ∧
    ¬ ∀ name root, after.find? name = some root → root.host.Distinct := by
  refine ⟨sampleVacant_wellTyped, ?_, by cbv, by cbv, by cbv, ?_⟩
  · intro name root hroot
    obtain ⟨rfl, rfl⟩ := Prod.mk.inj (List.mem_singleton.1 (Host.mem_of_lookup hroot))
    exact Host.distinct_of_part?_none trivial (fun step => by cases step <;> rfl)
  · intro hdistinct
    have hroot : (run (.plain Regex.engine) sampleVacant (Utf8.encode "o.name = x")).state.env.find?
        "o" = some ⟨.present (.record "Node") (.record sampleLayout
          [.string "x", .sequence (.record "Node") [],
            .map .ordered .string [("KEY", .string ""), ("key", .string "")]]), true⟩ := by
      cbv
    have hkeys : ["KEY", "key"].Pairwise Host.Apart :=
      hdistinct "o" _ hroot [.content, .field "Attrs"] _ rfl
    exact absurd hkeys (by decide)

end RuleScript
