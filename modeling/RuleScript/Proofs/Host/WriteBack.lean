/-
  RuleScript.Proofs.Host.WriteBack
  ────────────────────────────────
  **What has been read can be written back.**

  A read and a write go down a path by the same steps, and where the read finds a
  scalar there is nothing for the write to fill or to put in.  So it comes to the same
  scalar, and the text of that scalar is coerced to what it was taken from.  Bytes are
  the one scalar whose text may stand for others: those that are no encoding of a text
  are read as a text of which they are not the encoding.

  Main results:
    • `Value.coerces_retold` — the text of a scalar is coerced to what it tells.
    • `write_retold` — that is what a scalar becomes when its text is written back.
    • `write_back` — a scalar that has been read, written back, changes nothing.
-/
import RuleScript.Proofs.Host.Removal

namespace RuleScript

/-! ## §1. Scalars that their text stands for. -/

/-- The bytes are the encoding of a text. -/
def Utf8.Valid (content : List UInt8) : Prop := ∃ s : String, encode s = content

/-- The text that bytes are read as is the only one that they can encode. -/
theorem Utf8.valid_iff {content : List UInt8} : Valid content ↔ encode (text content) = content := by
  constructor
  · rintro ⟨s, rfl⟩
    rw [text_encode]
  · intro h
    exact ⟨text content, h⟩

instance (content : List UInt8) : Decidable (Utf8.Valid content) :=
  decidable_of_iff _ Utf8.valid_iff.symm

namespace Value

/-- The value is a scalar that its text stands for. -/
def Legible : Value → Prop
  | .string _ => True
  | .integer _ => True
  | .boolean _ => True
  | .bytes content => Utf8.Valid content
  | .composite _ _ => False

instance : DecidablePred Legible
  | .string _ => inferInstanceAs (Decidable True)
  | .integer _ => inferInstanceAs (Decidable True)
  | .boolean _ => inferInstanceAs (Decidable True)
  | .bytes content => inferInstanceAs (Decidable (Utf8.Valid content))
  | .composite _ _ => inferInstanceAs (Decidable False)

theorem scalar?_of_legible {value : Value} (hlegible : value.Legible) :
    ∃ kind, value.scalar? = some kind := by
  cases value with
  | string | integer | boolean | bytes => exact ⟨_, rfl⟩
  | composite kind typeName => exact hlegible.elim

/-- What the text of a scalar tells of it: bytes become the encoding of the text that they are
read as. -/
def retold : Value → Value
  | .bytes content => .bytes (Utf8.encode (Utf8.text content))
  | value => value

/-- **The text of a scalar is coerced to what it tells.** -/
theorem coerces_retold {value : Value} {kind : Host.Kind} (hscalar : value.scalar? = some kind) :
    Host.Coerces value.text kind value.retold := by
  cases value with
  | string text =>
      cases hscalar
      exact .string
  | integer n =>
      cases hscalar
      exact .integer (Numeral.spells_write n)
  | boolean b =>
      cases hscalar
      have hread : Text.sameName (Value.boolean b).text "true" = b := by
        cases b <;> rfl
      have hcoerces : Host.Coerces (Value.boolean b).text .boolean _ := .boolean
      rwa [hread] at hcoerces
  | bytes content =>
      cases hscalar
      exact .bytes
  | composite kind typeName => cases hscalar

/-- Legible scalars are those that their text tells as they are. -/
theorem retold_eq_iff {value : Value} {kind : Host.Kind} (hscalar : value.scalar? = some kind) :
    value.retold = value ↔ value.Legible := by
  cases value with
  | string | integer | boolean => exact iff_of_true rfl trivial
  | bytes content =>
      show Value.bytes _ = .bytes content ↔ Utf8.Valid content
      rw [Value.bytes.injEq, Utf8.valid_iff]
  | composite kind typeName => cases hscalar

/-- **The text of a legible scalar is coerced to that scalar.** -/
theorem coerces_text {value : Value} (hlegible : value.Legible) :
    ∃ kind, value.scalar? = some kind ∧ Host.Coerces value.text kind value := by
  obtain ⟨kind, hscalar⟩ := scalar?_of_legible hlegible
  have hcoerces := coerces_retold hscalar
  rw [(retold_eq_iff hscalar).2 hlegible] at hcoerces
  exact ⟨kind, hscalar, hcoerces⟩

end Value

namespace Host

/-! ## §2. Paths. -/

/-- Every scalar is read of some host value. -/
theorem exists_value?_of_scalar {value : Value} {kind : Kind}
    (hscalar : value.scalar? = some kind) : ∃ h : Host, h.value? = some value := by
  cases value with
  | string text => exact ⟨.string text, rfl⟩
  | integer n => exact ⟨.integer n, rfl⟩
  | boolean b => exact ⟨.boolean b, rfl⟩
  | bytes content => exact ⟨.bytes content, rfl⟩
  | composite kind typeName => cases hscalar

/-- **The text of a scalar, written where that was read**, puts what it tells in its place and
leaves all around it as it was. -/
theorem write_retold (catalog : Catalog) {h : Host} {path : List String} {value : Value}
    {kind : Kind} (hread : h.read path = .ok value) (hscalar : value.scalar? = some kind) :
    ∃ part new rebuild, Reaches h path part [] rebuild ∧ part.value? = some value ∧
      new.value? = some value.retold ∧ h.write catalog value.text path = ⟨rebuild new, none⟩ := by
  induction h, path using descent_induction catalog with
  | hstep h path ih _ =>
      rcases read_cases hread with ⟨rfl, hvalue⟩ | ⟨d, hd, hchild⟩
      · have hcoerces := Value.coerces_retold hscalar
        obtain ⟨new, hnew⟩ := exists_value?_of_scalar hcoerces.scalar?_eq
        have hold : h.value?.bind Value.scalar? = some kind := by
          rw [hvalue]
          exact hscalar
        exact ⟨h, new, id, .here, hvalue, hnew, write_scalar hold hnew hcoerces⟩
      · obtain ⟨part, new, rebuild, hr, hpart, hnew, hwrite⟩ := ih d hd hchild
        refine ⟨part, new, d.rebuild ∘ rebuild, .into hd hr, hpart, hnew, ?_⟩
        rw [hd.write_eq, hwrite]
        rfl

/-- **What has been read can be written back**: a path that reads a scalar takes the text
of that scalar, and the value is as it was in all its parts. -/
theorem write_back (catalog : Catalog) {h : Host} {path : List String} {value : Value}
    (hread : h.read path = .ok value) (hlegible : value.Legible) :
    h.write catalog value.text path = ⟨h, none⟩ := by
  induction h, path using descent_induction catalog with
  | hstep h path ih _ =>
      rcases read_cases hread with ⟨rfl, hvalue⟩ | ⟨d, hd, hchild⟩
      · obtain ⟨kind, hkind, hcoerces⟩ := value.coerces_text hlegible
        have hscalar : h.value?.bind Value.scalar? = some kind := by
          rw [hvalue]
          exact hkind
        exact write_scalar hscalar hvalue hcoerces
      · rw [hd.write_eq, ih d hd hchild]
        show (⟨d.rebuild d.child, none⟩ : Changed) = _
        rw [hd.rebuild_child]

/-- A record with the least integer under a key in an optional. -/
def sampleLedger : Host :=
  .record (.ofFields "Ledger" ["Name", "Counts"])
    [.string "l", .present (.map .ordered .integer)
      (.map .ordered .integer [("High", .integer Int64.maxValue), ("Low", .integer Int64.minValue)])]

/-- The least integer is written back under another spelling of its key. -/
theorem sampleLedger_write_back :
    sampleLedger.read ["COUNTS", "low"] = .ok (.integer Int64.minValue) ∧
    (Value.integer Int64.minValue).Legible ∧
    sampleLedger.write [] (Value.integer Int64.minValue).text ["COUNTS", "low"]
      = ⟨sampleLedger, none⟩ := by
  have hfield : Descends sampleLedger ["COUNTS", "low"] _ := .field rfl rfl
  have hentry : Descends (.map .ordered .integer
      [("High", .integer Int64.maxValue), ("Low", .integer Int64.minValue)]) ["low"] _ := .entry rfl
  have hread : sampleLedger.read ["COUNTS", "low"] = .ok (.integer Int64.minValue) := by
    rw [hfield.read_eq, Descends.content.read_eq, hentry.read_eq]
    exact read_nil_of_value? rfl
  exact ⟨hread, trivial, write_back [] hread trivial⟩

end Host

end RuleScript
