/-
  RuleScript.Proofs.Run.Faults
  ────────────────────────────
  **What a fault is about.**

  A statement fails for one of its operands, for what it would do, or for the block that it
  closes.  Whatever it is, the fault has the first word of the statement in it, and so says
  which statement has failed.  Blocks that are left open are the one thing that no statement
  fails for.

  Main results:
    • `State.blames_step` — the fault of a statement has its first word.
    • `keyword?_of_step` — the same for a statement that has just been read.
-/
import RuleScript.Proofs.Script.Reading
import RuleScript.Run.Machine

namespace RuleScript

open Script (Located Statement Word)

/-! ## §1. Faults. -/

/-- The first word of the statement that has failed. -/
def Fault.keyword? : Fault → Option String
  | .missingOperand keyword _ => some keyword
  | .unmatchedClose => some "\x7d"
  | .openBlocks _ => none
  | .alreadyDeclared _ => some "var"
  | .unexpectedItem word => some word
  | .unknownOperator _ path => some path
  | .expanding _ keyword _ => some keyword
  | .comparing keyword _ => some keyword
  | .modifying path _ _ => some path
  | .unsetting path _ => some path
  | .reading path _ => some path

/-- If there is a fault, it is about a statement with this first word. -/
def Outcome.Blames (keyword : String) (o : Outcome) : Prop :=
  ∀ fault, o.fault = some fault → fault.keyword? = some keyword

namespace State

variable {settings : Settings} {s : State} {keyword : String}

/-! ## §2. Parts of statements. -/

theorem blames_ok (s : State) : s.ok.Blames keyword := nofun

theorem blames_fail {fault : Fault} (h : fault.keyword? = some keyword) :
    (s.fail fault).Blames keyword := by
  intro fault' hfault
  cases hfault
  exact h

/-- What a part of a statement fails with. -/
theorem keyword?_of_mapError {ε α : Type} {e : Except ε α} {fault : Fault} {raise : ε → Fault}
    (hraise : ∀ cause, (raise cause).keyword? = some keyword)
    (h : e.mapError raise = .error fault) : fault.keyword? = some keyword := by
  cases e with
  | ok value => cases h
  | error cause =>
      cases h
      exact hraise cause

/-- Two parts of a statement: the first one has failed, or the second one. -/
theorem keyword?_of_bind {α β : Type} {first : Except Fault α} {second : α → Except Fault β}
    {fault : Fault}
    (hfirst : ∀ fault, first = .error fault → fault.keyword? = some keyword)
    (hsecond : ∀ value fault, second value = .error fault → fault.keyword? = some keyword)
    (h : first >>= second = .error fault) : fault.keyword? = some keyword := by
  cases first with
  | ok value => exact hsecond value fault h
  | error fault' =>
      cases h
      exact hfirst fault rfl

theorem keyword?_of_expand {word : String} (fault : Fault)
    (h : s.expand keyword word = .error fault) : fault.keyword? = some keyword :=
  keyword?_of_mapError (fun _ => rfl) h

theorem keyword?_of_test {left operator right : String} {fault : Fault}
    (h : s.test settings keyword left operator right = .error fault) :
    fault.keyword? = some keyword := by
  refine keyword?_of_bind keyword?_of_expand (fun l fault h => ?_) h
  refine keyword?_of_bind keyword?_of_expand (fun r fault h => ?_) h
  exact keyword?_of_mapError (fun _ => rfl) h

theorem keyword?_of_replaced {pattern replacement : String} {fault : Fault}
    (h : s.replaced settings keyword pattern replacement = .error fault) :
    fault.keyword? = some keyword := by
  refine keyword?_of_bind (fun fault => keyword?_of_mapError fun _ => rfl)
    (fun expression fault h => ?_) h
  refine keyword?_of_bind keyword?_of_expand (fun text fault h => ?_) h
  refine keyword?_of_bind (fun fault => keyword?_of_mapError fun _ => rfl)
    (fun value fault h => ?_) h
  cases h

theorem blames_evaluate (settings : Settings) (s : State)
    (keyword left operator right : String) :
    (s.evaluate settings keyword left operator right).Blames keyword := by
  unfold evaluate
  split
  · exact blames_ok _
  · next fault htest => exact blames_fail (keyword?_of_test htest)

theorem blames_condition (settings : Settings) (s : State) (link : Script.Link)
    (left operator right : String) :
    (s.condition settings link left operator right).Blames link.keyword := by
  unfold condition
  split
  · exact blames_ok _
  cases link with
  | opening => exact blames_evaluate settings _ _ left operator right
  | following =>
      show (if s.frames.top.chainHeld = true then _ else _ : Outcome).Blames _
      split
      · exact blames_ok _
      · exact blames_evaluate settings s _ left operator right

theorem blames_write (s : State) (path text : String) : (s.write path text).Blames path := by
  intro fault hfault
  obtain ⟨cause, -, rfl⟩ := Option.map_eq_some_iff.1 hfault
  rfl

theorem blames_assign (s : State) (path word : String) : (s.assign path word).Blames path := by
  unfold assign
  split
  · exact blames_write s path _
  · next fault hexpand => exact blames_fail (keyword?_of_expand fault hexpand)

theorem blames_unset (s : State) (path : String) : (s.unset path).Blames path := by
  intro fault hfault
  obtain ⟨cause, -, rfl⟩ := Option.map_eq_some_iff.1 hfault
  rfl

theorem blames_replace (settings : Settings) (s : State) (path pattern replacement : String) :
    (s.replace settings path pattern replacement).Blames path := by
  unfold replace
  split
  · exact blames_write s path _
  · next fault hreplaced => exact blames_fail (keyword?_of_replaced hreplaced)

theorem blames_whereActive {run : State → Outcome}
    (h : ∀ s : State, (run s).Blames keyword) : (s.whereActive run).Blames keyword := by
  unfold whereActive
  split
  · exact h _
  · exact blames_ok s

theorem blames_change (settings : Settings) (s : State) (target : String)
    (step : Script.Change) : (s.change settings target step).Blames target := by
  unfold change
  split
  · exact blames_fail rfl
  cases step with
  | assign value => exact blames_whereActive (blames_assign · target value)
  | unset => exact blames_whereActive (blames_unset · target)
  | replace pattern replacement =>
      exact blames_whereActive (blames_replace settings · target pattern replacement)
  | incomplete missing => exact blames_fail rfl
  | unknown operator =>
      show (if s.knows target = true then _ else _ : Outcome).Blames _
      split <;> exact blames_fail rfl

/-! ## §3. Statements. -/

/-- **The fault of a statement has its first word.** -/
theorem blames_step (settings : Settings) (s : State) {item : Located} {keyword : String}
    (hkeyword : item.statement.words.head? = some keyword) :
    (s.step settings item).Blames keyword := by
  obtain ⟨line, statement⟩ := item
  cases statement with
  | blank => exact blames_ok s
  | otherwise => exact blames_ok _
  | openBlock => exact blames_ok _
  | condition link left operator right =>
      cases hkeyword
      exact blames_condition settings s link left operator right
  | closeBlock =>
      cases hkeyword
      cases hp : s.frames.pop? with
      | some frames =>
          rw [step_close hp]
          exact blames_ok _
      | none =>
          rw [step_unmatched hp]
          exact blames_fail rfl
  | declare name value =>
      cases hkeyword
      show (s.declare name value).Blames _
      rw [declare_eq_whereActive]
      refine blames_whereActive fun s => ?_
      split
      · exact blames_fail rfl
      · exact blames_ok _
  | log message =>
      cases hkeyword
      show (s.logEntry settings line message).Blames _
      rw [logEntry_eq_whereActive]
      refine blames_whereActive fun s => ?_
      split
      · exact blames_ok _
      · next fault hexpand =>
        split at hexpand
        · exact blames_fail (keyword?_of_expand fault hexpand)
        · cases hexpand
  | change target step =>
      cases hkeyword
      exact blames_change settings s _ step
  | incomplete keyword missing =>
      cases hkeyword
      exact blames_fail rfl

end State

/-- A statement that is read has the word that it was read from as its first one. -/
theorem Script.head?_words_readStatement (head : String) (words : List Word) :
    (Script.readStatement head words).1.words.head? = some head := by
  cases Script.head_of head with
  | blank => rfl
  | otherwise => rfl
  | openBlock => rfl
  | closeBlock => rfl
  | condition link =>
      rw [Script.readStatement_condition]
      fun_cases Script.readCondition link words <;> rfl
  | declare =>
      show (Script.readDeclaration words).1.words.head? = _
      fun_cases Script.readDeclaration words <;> rfl
  | log =>
      show (Script.readLog words).1.words.head? = _
      fun_cases Script.readLog words <;> rfl
  | target free =>
      rw [Script.readStatement_target free]
      rfl

/-- **A statement that has been read and fails** does so with a fault about its first word. -/
theorem keyword?_of_step {settings : Settings} {s : State} {line : Nat} {head : String}
    {words : List Word} {fault : Fault}
    (h : (s.step settings ⟨line, (Script.readStatement head words).1⟩).fault = some fault) :
    fault.keyword? = some head :=
  s.blames_step settings (Script.head?_words_readStatement head words) fault h

end RuleScript
