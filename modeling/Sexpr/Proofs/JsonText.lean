import Sexpr.Json
import Sexpr.Proofs.Delimited

/-!
# Reading JSON text in one way

Written values are told apart by their text, up to where the text stops. This holds of the escapes
of characters (`Json.escaping`), so of quoted texts (`Json.quote_append_inj`), of numbers
(`Json.number_append_inj`), and of values with commas between them if it holds of each, so of all
values by induction (`Json.told_print`).

Whatever is written is printable ASCII (`Json.printable_print`).
-/

namespace Sexpr.Json

open Text (Stops Told Starts)

/-- A property of the plain values that passes to arrays from their items and to objects from the
values of their fields holds of every value. -/
@[elab_as_elim, induction_eliminator]
theorem induction {motive : Json → Prop} (null : motive .null)
    (number : ∀ value, motive (.number value)) (text : ∀ value, motive (.text value))
    (array : ∀ items, (∀ item ∈ items, motive item) → motive (.array items))
    (object : ∀ fields, (∀ field ∈ fields, motive field.2) → motive (.object fields)) :
    ∀ value, motive value
  | .null => null
  | .number value => number value
  | .text value => text value
  | .array items => array items fun item _ => induction null number text array object item
  | .object fields => object fields fun field hm =>
    have : sizeOf field.2 < 1 + sizeOf fields := by
      have hf := List.sizeOf_lt_of_mem hm
      obtain ⟨name, value⟩ := field
      simp only [Prod.mk.sizeOf_spec] at hf ⊢
      omega
    induction null number text array object field.2

/-! ## Escapes -/

theorem escapeUnit_append_inj {left right : Nat} {x y : List Char} (hl : left < 0x10000)
    (hr : right < 0x10000) (h : escapeUnit left ++ x = escapeUnit right ++ y) :
    left = right ∧ x = y := by
  simp only [escapeUnit, List.cons_append, List.cons.injEq, true_and] at h
  exact @Text.hexDigits_append_inj 4 left right hl hr x y h

/-- The code points of characters are none of the code units that pairs are made of. -/
theorem not_surrogate (c : Char) : c.toNat < 0xd800 ∨ 0xdfff < c.toNat ∧ c.toNat < 0x110000 :=
  c.valid

theorem escapeCode_append_inj {c d : Char} {x y : List Char}
    (h : escapeCode c.toNat ++ x = escapeCode d.toNat ++ y) : c = d ∧ x = y := by
  have hc := not_surrogate c
  have hd := not_surrogate d
  have key : c.toNat = d.toNat ∧ x = y := by
    rw [escapeCode, escapeCode] at h
    split at h <;> split at h
    · exact escapeUnit_append_inj ‹_› ‹_› h
    · -- One code unit is no half of a pair.
      rw [List.append_assoc] at h
      have := (escapeUnit_append_inj ‹_› (by omega) h).1
      omega
    · rw [List.append_assoc] at h
      have := (escapeUnit_append_inj (by omega) ‹_› h).1
      omega
    · rw [List.append_assoc, List.append_assoc] at h
      obtain ⟨hu, h⟩ := escapeUnit_append_inj (by omega) (by omega) h
      obtain ⟨hv, hxy⟩ := escapeUnit_append_inj (by omega) (by omega) h
      exact ⟨by omega, hxy⟩
  exact ⟨Char.toNat_inj.mp key.1, key.2⟩

/-- The character that a letter after a backslash stands for. -/
def named : Char → Option Char
  | '\x22' => some '\x22'
  | '\\' => some '\\'
  | 'n' => some '\n'
  | 'r' => some '\r'
  | 't' => some '\t'
  | 'b' => some '\x08'
  | 'f' => some '\x0c'
  | _ => none

/-- A character is written by a letter, as itself, or by its code. -/
theorem escape_cases (c : Char) :
    (∃ letter, escape c = ['\\', letter] ∧ named letter = some c) ∨
    (escape c = [c] ∧ c ≠ '\x22' ∧ c ≠ '\\' ∧ 0x20 ≤ c.toNat ∧ c.toNat ≤ 0x7e) ∨
    escape c = escapeCode c.toNat := by
  rw [escape]
  split
  · rename_i h
    refine .inl ⟨c, rfl, ?_⟩
    rcases h with rfl | rfl <;> rfl
  rename_i hq
  rw [not_or] at hq
  split
  · rename_i h; exact .inl ⟨'n', rfl, by rw [h]; rfl⟩
  split
  · rename_i h; exact .inl ⟨'r', rfl, by rw [h]; rfl⟩
  split
  · rename_i h; exact .inl ⟨'t', rfl, by rw [h]; rfl⟩
  split
  · rename_i h; exact .inl ⟨'b', rfl, by rw [h]; rfl⟩
  split
  · rename_i h; exact .inl ⟨'f', rfl, by rw [h]; rfl⟩
  split
  · rename_i h; exact .inr (.inl ⟨rfl, hq.1, hq.2, h⟩)
  · exact .inr (.inr rfl)

theorem escapeCode_eq (code : Nat) : ∃ rest, escapeCode code = '\\' :: 'u' :: rest := by
  rw [escapeCode]
  split
  · exact ⟨_, rfl⟩
  · exact ⟨_, rfl⟩

/-- The escapes of characters between double quotes. -/
def escaping : Text.Escaping '\x22' escape where
  named := named
  coded c := escapeCode c.toNat
  quote_ne := by decide
  escape_cases c := (escape_cases c).imp_right (.imp_left fun h => ⟨h.1, h.2.1, h.2.2.1⟩)
  coded_eq c := (escapeCode_eq c.toNat).elim fun rest h => ⟨'u', rest, h, rfl⟩
  coded_delimited _ _ _ _ := escapeCode_append_inj

theorem toList_quote (value : String) :
    (quote value).toList = '\x22' :: (value.toList.flatMap escape ++ ['\x22']) := by
  rw [quote, String.toList_ofList]

/-- A quoted text is told from its written form, whatever comes after it. -/
theorem quote_append_inj {left right : String} {x y : List Char}
    (h : (quote left).toList ++ x = (quote right).toList ++ y) : left = right ∧ x = y := by
  simp only [toList_quote, List.cons_append, List.append_assoc, List.cons.injEq, true_and,
    List.nil_append] at h
  obtain ⟨hl, hxy⟩ := escaping.append_inj h
  exact ⟨String.toList_inj.mp hl, hxy⟩

/-! ## Numbers -/

/-- The characters of numbers. -/
def isNumeral (c : Char) : Bool := c == '-' || c.isDigit

theorem toList_number (value : Int) :
    (toString value).toList =
      if 0 ≤ value then Nat.toDigits 10 value.toNat else '-' :: Nat.toDigits 10 (-value).toNat := by
  rw [Int.toString_eq_repr, Int.repr_eq_if]
  split
  · rw [Nat.toList_repr]
  · rw [String.toList_append, Nat.toList_repr]
    rfl

theorem isNumeral_of_mem {value : Int} {c : Char} (h : c ∈ (toString value).toList) :
    isNumeral c = true := by
  have hd : ∀ {n : Nat}, c ∈ Nat.toDigits 10 n → isNumeral c = true := fun hm => by
    rw [isNumeral, Nat.isDigit_of_mem_toDigits (by decide) (by decide) hm, Bool.or_true]
  rw [toList_number] at h
  split at h
  · exact hd h
  · rcases List.mem_cons.mp h with rfl | h
    · rfl
    · exact hd h

theorem toDigits_inj {left right : Nat} (h : Nat.toDigits 10 left = Nat.toDigits 10 right) :
    left = right := by
  rw [← Nat.ofDigitChars_ten_toDigits (n := left), h, Nat.ofDigitChars_ten_toDigits]

theorem dash_not_mem (value : Nat) : '-' ∉ Nat.toDigits 10 value := fun h =>
  absurd (Nat.isDigit_of_mem_toDigits (by decide) (by decide) h) (by decide)

theorem number_inj {left right : Int} (h : toString left = toString right) : left = right := by
  have hl := congrArg String.toList h
  rw [toList_number, toList_number] at hl
  split at hl <;> split at hl
  · have := toDigits_inj hl
    omega
  · exact absurd (hl ▸ List.mem_cons_self) (dash_not_mem _)
  · exact absurd (hl ▸ List.mem_cons_self) (dash_not_mem _)
  · have := toDigits_inj (List.cons.inj hl).2
    omega

theorem isNumeral_of_stops {rest : List Char} (h : Stops rest) :
    ∀ c ∈ rest.head?, isNumeral c = false := by
  intro c hc
  rcases h c hc with rfl | rfl | rfl <;> decide

/-- A number is told from its digits, which end where the text stops. -/
theorem number_append_inj {left right : Int} {x y : List Char} (hx : Stops x) (hy : Stops y)
    (h : (toString left).toList ++ x = (toString right).toList ++ y) : left = right ∧ x = y := by
  obtain ⟨hd, hxy⟩ := Text.append_inj_of_run (fun _ => isNumeral_of_mem)
    (fun _ => isNumeral_of_mem) (isNumeral_of_stops hx) (isNumeral_of_stops hy) h
  exact ⟨number_inj (String.toList_inj.mp hd), hxy⟩

/-! ## Values -/

theorem printItems_eq : ∀ items : List Json, printItems items = ", ".intercalate (items.map print)
  | [] => rfl
  | [item] => by rw [printItems, List.map_singleton, String.intercalate_singleton]
  | item :: next :: rest => by
    rw [printItems, printItems_eq (next :: rest)]
    simp only [List.map_cons, String.intercalate_cons_cons]

/-- The written form of a field. -/
def printField (field : String × Json) : String :=
  quote field.1 ++ ": " ++ print field.2

theorem printFields_eq :
    ∀ fields : List (String × Json), printFields fields = ", ".intercalate (fields.map printField)
  | [] => rfl
  | [(name, value)] => by rw [printFields, List.map_singleton, String.intercalate_singleton]; rfl
  | (name, value) :: next :: rest => by
    rw [printFields, printFields_eq (next :: rest)]
    simp only [List.map_cons, String.intercalate_cons_cons]
    rfl

theorem toList_print_array (items : List Json) :
    (print (.array items)).toList =
      '[' :: ([',', ' '].intercalate (items.map fun item => (print item).toList) ++ [']']) := by
  simp [print, printItems_eq, String.toList_intercalate, Function.comp_def]

theorem toList_print_object (fields : List (String × Json)) :
    (print (.object fields)).toList =
      '\x7b' ::
        ([',', ' '].intercalate (fields.map fun field => (printField field).toList) ++
          ['\x7d']) := by
  simp [print, printFields_eq, String.toList_intercalate, Function.comp_def]

theorem toList_printField (field : String × Json) :
    (printField field).toList =
      (quote field.1).toList ++ (':' :: ' ' :: (print field.2).toList) := by
  simp [printField]

/-- The kinds of value. -/
inductive Shape where
  | null
  | number
  | text
  | array
  | object
  deriving DecidableEq

/-- The kind of a value. -/
def shape : Json → Shape
  | .null => .null
  | .number _ => .number
  | .text _ => .text
  | .array _ => .array
  | .object _ => .object

/-- The kind of a value whose written form starts with a character. -/
def shapeOf (c : Char) : Option Shape :=
  if c = 'n' then some .null
  else if c = '\x22' then some .text
  else if c = '[' then some .array
  else if c = '\x7b' then some .object
  else if isNumeral c then some .number
  else none

theorem shapeOf_numeral {c : Char} (h : isNumeral c = true) : shapeOf c = some .number := by
  have hn : ∀ d : Char, isNumeral d = false → c ≠ d := by
    rintro d hd rfl
    cases hd.symm.trans h
  rw [shapeOf, if_neg (hn 'n' rfl), if_neg (hn '\x22' rfl), if_neg (hn '[' rfl),
    if_neg (hn '\x7b' rfl), if_pos h]

theorem toString_ne_nil (value : Int) : (toString value).toList ≠ [] := by
  rw [toList_number]
  split
  · exact Nat.toDigits_ne_nil
  · exact List.cons_ne_nil _ _

/-- The first character of a written value shows its kind. -/
theorem shapeOf_print (value : Json) :
    ∃ c rest, (print value).toList = c :: rest ∧ shapeOf c = some value.shape := by
  cases value with
  | null => exact ⟨'n', ['u', 'l', 'l'], by simp [print], rfl⟩
  | number value =>
    obtain ⟨c, rest, hc⟩ := List.exists_cons_of_ne_nil (toString_ne_nil value)
    exact ⟨c, rest, by rw [print, hc],
      shapeOf_numeral (isNumeral_of_mem (hc ▸ List.mem_cons_self))⟩
  | text value => exact ⟨'\x22', _, by rw [print, toList_quote], rfl⟩
  | array items => exact ⟨'[', _, toList_print_array items, rfl⟩
  | object fields => exact ⟨'\x7b', _, toList_print_object fields, rfl⟩

theorem shape_eq_of_print {left right : Json} {x y : List Char}
    (h : (print left).toList ++ x = (print right).toList ++ y) : left.shape = right.shape := by
  obtain ⟨c, rest, hc, hs⟩ := shapeOf_print left
  obtain ⟨d, rest', hd, hs'⟩ := shapeOf_print right
  rw [hc, hd] at h
  obtain rfl := (List.cons.inj h).1
  exact Option.some.inj (hs.symm.trans hs')

theorem starts_of_shapeOf {c : Char} {shape : Shape} (h : shapeOf c = some shape) :
    c ≠ ',' ∧ c ≠ ']' ∧ c ≠ '\x7d' := by
  refine ⟨?_, ?_, ?_⟩ <;>
  · rintro rfl
    cases h

theorem starts_print : Starts fun value => (print value).toList := by
  intro value
  obtain ⟨c, rest, hc, hs⟩ := shapeOf_print value
  exact ⟨c, rest, hc, starts_of_shapeOf hs⟩

theorem starts_printField : Starts fun field => (printField field).toList := by
  intro field
  have hf := toList_printField field
  rw [toList_quote, List.cons_append] at hf
  exact ⟨'\x22', _, hf, by decide⟩

theorem told_printField {field : String × Json}
    (h : Told (fun value => (print value).toList) field.2) :
    Told (fun field => (printField field).toList) field := by
  intro other x y hx hy he
  simp only [toList_printField, List.append_assoc, List.cons_append] at he
  obtain ⟨hn, he⟩ := quote_append_inj he
  obtain ⟨hv, hxy⟩ := h other.2 x y hx hy (List.cons.inj (List.cons.inj he).2).2
  exact ⟨Prod.ext hn hv, hxy⟩

/-- A value is told from its written form. -/
theorem told_print (value : Json) : Told (fun value => (print value).toList) value := by
  induction value with
  | null =>
    intro other x y _ _ h
    have hs := shape_eq_of_print h
    cases other with
    | null => exact ⟨rfl, List.append_cancel_left h⟩
    | number | text | array | object => cases hs
  | number value =>
    intro other x y hx hy h
    have hs := shape_eq_of_print h
    cases other with
    | number other =>
      simp only [print] at h
      obtain ⟨rfl, hxy⟩ := number_append_inj hx hy h
      exact ⟨rfl, hxy⟩
    | null | text | array | object => cases hs
  | text value =>
    intro other x y _ _ h
    have hs := shape_eq_of_print h
    cases other with
    | text other =>
      simp only [print] at h
      obtain ⟨rfl, hxy⟩ := quote_append_inj h
      exact ⟨rfl, hxy⟩
    | null | number | array | object => cases hs
  | array items ih =>
    intro other x y _ _ h
    have hs := shape_eq_of_print h
    cases other with
    | array others =>
      simp only [toList_print_array, List.cons_append, List.append_assoc, List.cons.injEq,
        true_and, List.nil_append] at h
      obtain ⟨rfl, hxy⟩ := Text.told_separated starts_print (.inl rfl) ih others x y h
      exact ⟨rfl, hxy⟩
    | null | number | text | object => cases hs
  | object fields ih =>
    intro other x y _ _ h
    have hs := shape_eq_of_print h
    cases other with
    | object others =>
      simp only [toList_print_object, List.cons_append, List.append_assoc, List.cons.injEq,
        true_and, List.nil_append] at h
      obtain ⟨rfl, hxy⟩ := Text.told_separated starts_printField (.inr rfl)
        (fun field hf => told_printField (ih field hf)) others x y h
      exact ⟨rfl, hxy⟩
    | null | number | text | array => cases hs

theorem print_inj {left right : Json} (h : print left = print right) : left = right :=
  (told_print left right [] [] Text.stops_nil Text.stops_nil
    (congrArg (fun text : String => text.toList ++ []) h)).1

/-! ## Printable text -/

/-- A printable character of ASCII, the space included. -/
def Printable (c : Char) : Prop := 0x20 ≤ c.toNat ∧ c.toNat ≤ 0x7e

instance (c : Char) : Decidable (Printable c) := inferInstanceAs (Decidable (_ ∧ _))

theorem printable_hexDigit : ∀ value < 16, Printable (Text.hexDigit value) := by
  decide

theorem printable_hexDigits (width value : Nat) :
    ∀ c ∈ Text.hexDigits width value, Printable c := by
  induction width generalizing value with
  | zero => exact nofun
  | succ width ih =>
    intro c hc
    rw [Text.hexDigits, List.mem_append, List.mem_singleton] at hc
    rcases hc with hc | rfl
    · exact ih _ c hc
    · exact printable_hexDigit _ (Nat.mod_lt _ (by decide))

theorem printable_escapeUnit (unit : Nat) : ∀ c ∈ escapeUnit unit, Printable c := by
  intro c hc
  rw [escapeUnit, List.mem_cons, List.mem_cons] at hc
  rcases hc with rfl | rfl | hc
  · decide
  · decide
  · exact printable_hexDigits 4 unit c hc

theorem printable_named {letter c : Char} (h : named letter = some c) : Printable letter := by
  unfold named at h
  split at h <;> first | decide | cases h

theorem printable_escape (c : Char) : ∀ d ∈ escape c, Printable d := by
  intro d hd
  rcases escape_cases c with ⟨letter, hc, hl⟩ | ⟨hc, -, -, hp⟩ | hc <;> rw [hc] at hd
  · rcases List.mem_cons.mp hd with rfl | hd
    · decide
    · rw [List.mem_singleton.mp hd]
      exact printable_named hl
  · rw [List.mem_singleton.mp hd]
    exact hp
  · rw [escapeCode] at hd
    split at hd
    · exact printable_escapeUnit _ d hd
    · rcases List.mem_append.mp hd with hd | hd <;> exact printable_escapeUnit _ d hd

theorem printable_quote (value : String) : ∀ c ∈ (quote value).toList, Printable c := by
  intro c hc
  rw [toList_quote, List.mem_cons, List.mem_append, List.mem_flatMap, List.mem_singleton] at hc
  rcases hc with rfl | ⟨d, -, hd⟩ | rfl
  · decide
  · exact printable_escape d c hd
  · decide

theorem printable_of_isNumeral {c : Char} (h : isNumeral c = true) : Printable c := by
  rw [isNumeral, Bool.or_eq_true, beq_iff_eq] at h
  rcases h with rfl | h
  · decide
  · rw [Char.isDigit, Bool.and_eq_true, decide_eq_true_eq, decide_eq_true_eq] at h
    have h₁ : 48 ≤ c.toNat := h.1
    have h₂ : c.toNat ≤ 57 := h.2
    exact ⟨by omega, by omega⟩

/-- Pieces with commas between them are printable if they are. -/
theorem printable_separated {pieces : List (List Char)}
    (h : ∀ piece ∈ pieces, ∀ c ∈ piece, Printable c) :
    ∀ c ∈ [',', ' '].intercalate pieces, Printable c := by
  match pieces with
  | [] => simp
  | [piece] => simpa using h
  | piece :: next :: rest =>
    intro c hc
    have hr := printable_separated fun p (hp : p ∈ next :: rest) => h p (List.mem_cons_of_mem _ hp)
    rw [List.intercalate_cons_cons, List.mem_append, List.mem_append] at hc
    rcases hc with (hc | hc) | hc
    · exact h piece List.mem_cons_self c hc
    · rcases List.mem_cons.mp hc with rfl | hc
      · decide
      · rw [List.mem_singleton.mp hc]
        decide
    · exact hr c hc

/-- Every character of a written value is printable. -/
theorem printable_print (value : Json) : ∀ c ∈ (print value).toList, Printable c := by
  induction value with
  | null =>
    have hn : "null".toList.all (fun c => decide (Printable c)) = true := by decide
    intro c hc
    exact of_decide_eq_true (List.all_eq_true.mp hn c hc)
  | number value =>
    intro c hc
    simp only [print] at hc
    exact printable_of_isNumeral (isNumeral_of_mem hc)
  | text value => simpa only [print] using printable_quote value
  | array items ih =>
    intro c hc
    rw [toList_print_array, List.mem_cons, List.mem_append, List.mem_singleton] at hc
    rcases hc with rfl | hc | rfl
    · decide
    · refine printable_separated (fun piece hp => ?_) c hc
      obtain ⟨item, hi, rfl⟩ := List.mem_map.mp hp
      exact ih item hi
    · decide
  | object fields ih =>
    intro c hc
    rw [toList_print_object, List.mem_cons, List.mem_append, List.mem_singleton] at hc
    rcases hc with rfl | hc | rfl
    · decide
    · refine printable_separated (fun piece hp => ?_) c hc
      obtain ⟨field, hf, rfl⟩ := List.mem_map.mp hp
      intro d hd
      rw [toList_printField, List.mem_append, List.mem_cons, List.mem_cons] at hd
      rcases hd with hd | rfl | rfl | hd
      · exact printable_quote field.1 d hd
      · decide
      · decide
      · exact ih field hf d hd
    · decide

end Sexpr.Json
