import Sexpr.Dynamic.Draft
import Sexpr.Emitter
import Sexpr.Proofs.Filing
import Sexpr.Proofs.Tree

/-!
# One way to show outcomes

Outcomes are shown by `Format.readings`, through the emitter that a table has under a name, and line
by line in a draft. The three agree. An emitter of a format shows each outcome as the format does,
so the standard table shows what the formats show, under the names that the formats have
(`EmitterTable.shown_standard`). A table with one more emitter differs from it under the name of
that emitter only (`EmitterTable.shown_put`).

A draft that is given the parts of outcomes, each as the kind of line that it is, has one line more
after each of them (`Draft.addReading_eq`) and in the end the text that the format gives for all
(`Draft.output_readings`).
-/

namespace Sexpr

/-! ## Emitters -/

namespace Format

/-- The emitter of a format has a rule for every outcome, and shows it as the format does. -/
theorem reading_emitter (format : Format) (reading : Reading) :
    format.emitter.reading reading = .ok (format.reading reading) := by
  match reading with
  | .success (.atom token) => rfl
  | .success (.group children) => rfl
  | .failure error => rfl

theorem readings_emitter (format : Format) (target : String) (readings : List Reading) :
    format.emitter.readings target readings = .ok (format.readings readings) := by
  have hm : readings.mapM format.emitter.reading = .ok (readings.map format.reading) := by
    rw [funext format.reading_emitter]
    exact List.mapM_pure
  rw [Emitter.readings, hm]
  rfl

/-- The text formats show an atom as its token. -/
theorem reading_atom {format : Format} (hf : format ≠ .json) (token : String) :
    format.reading (.success (.atom token)) = token := by
  cases format with
  | listing => exact Layout.listing.render_atom token
  | canonical => exact Layout.canonical.render_atom token
  | json => exact absurd rfl hf

end Format

namespace EmitterTable

/-- Outcomes through the emitter that a table has under a name. -/
def shown (table : EmitterTable) (target : String) (readings : List Reading) :
    Except EmitterError String := do
  let (name, emitter) ← table.select target
  emitter.readings name readings

/-- The standard table has the emitter of each format under the name of the format, and no other. -/
theorem select_standard (target : String) :
    standard.select target =
      match Format.select target with
      | .ok format => .ok (format.name, format.emitter)
      | .error name => .error (.unknown name) := by
  rw [select, standard, List.find?_map, Format.select, Format.ofName?]
  have hp : ((fun entry : String × Emitter => entry.1 == Text.lower target) ∘
      fun format : Format => (format.name, format.emitter)) =
      fun format => format.name == Text.lower target := rfl
  rw [hp]
  cases Format.all.find? fun format => format.name == Text.lower target <;> rfl

/-- The standard table shows outcomes as the formats do. -/
theorem shown_standard (target : String) (readings : List Reading) :
    standard.shown target readings =
      match Format.select target with
      | .ok format => .ok (format.readings readings)
      | .error name => .error (.unknown name) := by
  rw [shown, select_standard]
  cases Format.select target with
  | error name => rfl
  | ok format => exact format.readings_emitter format.name readings

/-! ## Tables with one more emitter -/

theorem select_eq_lookup (table : EmitterTable) (target : String) :
    table.select target =
      match table.lookup (Text.lower target) with
      | some emitter => .ok (Text.lower target, emitter)
      | none => .error (.unknown (Text.lower target)) := by
  rw [select]
  induction table with
  | nil => rfl
  | cons entry rest ih =>
    obtain ⟨name, emitter⟩ := entry
    rw [List.find?_cons, List.lookup_cons, BEq.comm]
    cases hn : Text.lower target == name with
    | false => exact ih
    | true => rw [eq_of_beq hn]

theorem select_put (table : EmitterTable) (name : String) (emitter : Emitter) (target : String) :
    (table.put name emitter).select target =
      if Text.lower target = name then .ok (name, emitter) else table.select target := by
  rw [select_eq_lookup, select_eq_lookup, put, lookup_put]
  by_cases hn : Text.lower target = name
  · rw [if_pos hn, if_pos (beq_iff_eq.mpr hn), hn]
  · rw [if_neg hn, if_neg (fun h => hn (beq_iff_eq.mp h))]

/-- An emitter that is put into a table shows what is asked for under its name, and what is asked
for under another name is shown as before. -/
theorem shown_put (table : EmitterTable) (name : String) (emitter : Emitter) (target : String)
    (readings : List Reading) :
    (table.put name emitter).shown target readings =
      if Text.lower target = name then emitter.readings name readings
      else table.shown target readings := by
  rw [shown, select_put]
  split <;> rfl

end EmitterTable

/-! ## Drafts -/

namespace Dynamic.Draft

/-- The draft with the line of an outcome: that of its error, or that of its tree by its kind. -/
def addReading (draft : Draft) : Reading → Except Refusal Draft
  | .failure error => draft.add .error (.error error)
  | .success (.atom token) => draft.add .atom (.node (.atom token))
  | .success (.group children) => draft.add .group (.node (.group children))

/-- An outcome adds the line that the format gives for it. -/
theorem addReading_eq (draft : Draft) (reading : Reading) :
    draft.addReading reading =
      .ok { draft with lines := draft.lines ++ [draft.format.reading reading] } := by
  obtain ⟨format, lines⟩ := draft
  match reading with
  | .failure error => rfl
  | .success (.atom token) =>
    by_cases hf : format = .json
    · subst hf
      rfl
    · rw [Format.reading_atom hf]
      cases format with
      | listing | canonical => rfl
      | json => exact absurd rfl hf
  | .success (.group children) => cases format <;> rfl

theorem foldlM_addReading (draft : Draft) (readings : List Reading) :
    readings.foldlM addReading draft =
      .ok { draft with lines := draft.lines ++ readings.map draft.format.reading } := by
  induction readings generalizing draft with
  | nil => rw [List.map_nil, List.append_nil]; rfl
  | cons reading rest ih =>
    rw [List.foldlM_cons, addReading_eq]
    exact (ih _).trans (by rw [List.map_cons, List.append_assoc, List.singleton_append])

/-- A draft of outcomes, from the first to the last, is the text that the format gives for them. -/
theorem output_readings (format : Format) (readings : List Reading) :
    (readings.foldlM addReading { format }).map output = .ok (format.readings readings) := by
  rw [foldlM_addReading]
  rfl

end Dynamic.Draft

end Sexpr
