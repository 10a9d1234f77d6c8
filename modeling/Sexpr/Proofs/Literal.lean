import Sexpr.Proofs.JsonText
import Sexpr.Proofs.Tree
import Sexpr.Reading

/-!
# What literal forms tell

The literal form of a tree is that of no other tree, though tokens may hold quotes, backslashes,
commas and brackets. A quoted text is told from its written form, whatever comes after it
(`Text.Quoted.encode_append_inj`): its first character is the delimiter, and between two given
delimiters the letter after a backslash tells which of the escapes it belongs to and how many
digits follow. So a literal form is told up to where the text stops, by induction on the tree
(`Node.told_literal`).

Errors are told by their names, tokens and positions (`SyntaxError.literal_inj`), and outcomes by
their trees and errors (`Reading.literal_inj`).
-/

namespace Sexpr.Text.Quoted

/-! ## Quoted texts -/

/-- The character that a letter after a backslash stands for. -/
def named : Char → Option Char
  | '\x27' => some '\x27'
  | '\x22' => some '\x22'
  | '\\' => some '\\'
  | 'n' => some '\n'
  | 'r' => some '\r'
  | 't' => some '\t'
  | _ => none

/-- The number of digits after a letter that stands for no character. -/
def width : Char → Nat
  | 'x' => 2
  | 'u' => 4
  | 'U' => 8
  | _ => 0

/-- The letter of a numeric escape announces enough digits for the code point. -/
theorem numeric_eq (c : Char) :
    ∃ letter, numeric c.toNat = '\\' :: letter :: hexDigits (width letter) c.toNat ∧
      c.toNat < Nat.pow 16 (width letter) ∧ named letter = none := by
  have hc : c.toNat < 0x110000 := by
    rcases Json.not_surrogate c with h | h
    · omega
    · exact h.2
  rw [numeric]
  split
  · rename_i h
    exact ⟨'x', rfl, h, rfl⟩
  split
  · rename_i h
    exact ⟨'u', rfl, h, rfl⟩
  · exact ⟨'U', rfl, Nat.lt_trans hc (by decide), rfl⟩

theorem delimited_numeric (c : Char) : Delimited (fun c : Char => numeric c.toNat) c := by
  intro d x y h
  obtain ⟨l, hc, hw, -⟩ := numeric_eq c
  obtain ⟨m, hd, hw', -⟩ := numeric_eq d
  simp only [hc, hd, List.cons_append, List.cons.injEq, true_and] at h
  obtain ⟨rfl, h⟩ := h
  obtain ⟨hn, hxy⟩ := hexDigits_append_inj hw hw' h
  exact ⟨Char.toNat_inj.mp hn, hxy⟩

/-- A character is written by a letter, as itself, or by its code point. -/
theorem escape_cases {quote : Char} (hq : quote = single ∨ quote = double) (c : Char) :
    (∃ letter, escape quote c = ['\\', letter] ∧ named letter = some c) ∨
    (escape quote c = [c] ∧ c ≠ quote ∧ c ≠ '\\') ∨ escape quote c = numeric c.toNat := by
  rw [escape]
  split
  · rename_i h
    refine .inl ⟨c, rfl, ?_⟩
    rcases h with rfl | rfl
    · rcases hq with rfl | rfl <;> rfl
    · rfl
  rename_i hb
  rw [not_or] at hb
  split
  · rename_i h; exact .inl ⟨'n', rfl, by rw [h]; rfl⟩
  split
  · rename_i h; exact .inl ⟨'r', rfl, by rw [h]; rfl⟩
  split
  · rename_i h; exact .inl ⟨'t', rfl, by rw [h]; rfl⟩
  split
  · exact .inr (.inl ⟨rfl, hb⟩)
  · exact .inr (.inr rfl)

/-- The escapes of characters between quotes of either kind. -/
def escaping {quote : Char} (hq : quote = single ∨ quote = double) :
    Escaping quote (escape quote) where
  named := named
  coded c := numeric c.toNat
  quote_ne := by rcases hq with rfl | rfl <;> decide
  escape_cases := escape_cases hq
  coded_eq c := by
    obtain ⟨letter, hc, -, hn⟩ := numeric_eq c
    exact ⟨letter, _, hc, hn⟩
  coded_delimited := delimited_numeric

theorem delimiter_cases (text : List Char) :
    delimiter text = single ∨ delimiter text = double := by
  rw [delimiter]
  split
  · exact .inr rfl
  · exact .inl rfl

/-- A quoted text is told from its written form, whatever comes after it. -/
theorem encode_append_inj {left right : String} {x y : List Char}
    (h : (encode left).toList ++ x = (encode right).toList ++ y) : left = right ∧ x = y := by
  simp only [encode, String.toList_ofList, encodeChars, List.cons_append, List.append_assoc,
    List.nil_append, List.cons.injEq] at h
  obtain ⟨hq, h⟩ := h
  -- The first character is the delimiter, so both texts are written between the same quotes.
  rw [← hq] at h
  obtain ⟨hl, hxy⟩ := (escaping (delimiter_cases left.toList)).append_inj h
  exact ⟨String.toList_inj.mp hl, hxy⟩

end Sexpr.Text.Quoted

namespace Sexpr.Node

/-! ## Trees -/

theorem toList_literal_atom (token : String) :
    (literal (.atom token)).toList =
      'A' :: 't' :: 'o' :: 'm' :: '(' :: ((Text.Quoted.encode token).toList ++ [')']) := by
  simp [literal, Layout.literal]

theorem toList_literal_group (children : List Node) :
    (literal (.group children)).toList =
      'G' :: 'r' :: 'o' :: 'u' :: 'p' :: '(' :: '[' ::
        ([',', ' '].intercalate (children.map fun child => (literal child).toList) ++
          [']', ')']) := by
  have hl : literal = Layout.literal.render := rfl
  rw [hl, Layout.render_group]
  simp [Layout.literal, String.toList_intercalate, Function.comp_def]

theorem starts_literal : Text.Starts fun node => (literal node).toList := by
  intro node
  cases node with
  | atom token => exact ⟨'A', _, toList_literal_atom token, by decide⟩
  | group children => exact ⟨'G', _, toList_literal_group children, by decide⟩

/-- A tree is told from its literal form, wherever that stops. -/
theorem told_literal (node : Node) : Text.Told (fun node => (literal node).toList) node := by
  induction node with
  | atom token =>
    intro other x y _ _ h
    cases other with
    | atom other =>
      simp only [toList_literal_atom, List.cons_append, List.append_assoc, List.nil_append,
        List.cons.injEq, true_and] at h
      obtain ⟨rfl, hr⟩ := Text.Quoted.encode_append_inj h
      exact ⟨rfl, (List.cons.inj hr).2⟩
    | group others =>
      simp only [toList_literal_atom, toList_literal_group] at h
      exact absurd (List.cons.inj h).1 (by decide)
  | group children ih =>
    intro other x y _ _ h
    cases other with
    | atom other =>
      simp only [toList_literal_atom, toList_literal_group] at h
      exact absurd (List.cons.inj h).1 (by decide)
    | group others =>
      simp only [toList_literal_group, List.cons_append, List.append_assoc, List.nil_append,
        List.cons.injEq, true_and] at h
      obtain ⟨rfl, hr⟩ := Text.told_separated starts_literal (.inl rfl) ih others _ _ h
      exact ⟨rfl, (List.cons.inj hr).2⟩

theorem literal_inj {left right : Node} (h : left.literal = right.literal) : left = right :=
  (told_literal left right [] [] Text.stops_nil Text.stops_nil
    (congrArg (fun text : String => text.toList ++ []) h)).1

end Sexpr.Node

namespace Sexpr

/-! ## Errors and outcomes -/

namespace SyntaxError

/-- The written form of the position of an error, after its token. -/
def place : Option Int → String
  | none => ""
  | some position => ", position=" ++ toString position

theorem literal_unexpected (token : String) (position : Option Int) :
    literal (.unexpected token position) =
      "UnexpectedToken(" ++ Text.Quoted.encode token ++ place position ++ ")" := by
  cases position with
  | none => exact congrArg (· ++ ")") (String.append_empty).symm
  | some position => exact congrArg (· ++ ")") (String.append_assoc ..)

theorem place_inj {left right : Option Int} (h : place left = place right) : left = right := by
  cases left with
  | none =>
    cases right with
    | none => rfl
    | some right => simpa [place] using congrArg String.toList h
  | some left =>
    cases right with
    | none => simpa [place] using congrArg String.toList h
    | some right =>
      rw [place, place, String.append_right_inj] at h
      rw [Json.number_inj h]

theorem literal_endOfInput_ne (token : String) (position : Option Int) :
    literal .endOfInput ≠ literal (.unexpected token position) := by
  intro h
  have he : literal .endOfInput = "UnexpectedEndOfInput()" := rfl
  rw [he, literal_unexpected] at h
  simpa using congrArg String.toList h

theorem literal_inj {left right : SyntaxError} (h : left.literal = right.literal) :
    left = right := by
  cases left with
  | endOfInput =>
    cases right with
    | endOfInput => rfl
    | unexpected token position => exact absurd h (literal_endOfInput_ne token position)
  | unexpected left position =>
    cases right with
    | endOfInput => exact absurd h.symm (literal_endOfInput_ne left position)
    | unexpected right other =>
      rw [literal_unexpected, literal_unexpected, ← String.toList_inj] at h
      simp only [String.toList_append, List.append_assoc] at h
      obtain ⟨rfl, hp⟩ := Text.Quoted.encode_append_inj (List.append_cancel_left h)
      rw [place_inj (String.toList_inj.mp (List.append_cancel_right hp))]

end SyntaxError

namespace Reading

theorem literal_success (node : Node) :
    literal (.success node) = "ParseSuccess(" ++ node.literal ++ ")" := rfl

theorem literal_failure (error : SyntaxError) :
    literal (.failure error) = "ParseFailure(" ++ error.literal ++ ")" := rfl

theorem literal_success_ne (node : Node) (error : SyntaxError) :
    literal (.success node) ≠ literal (.failure error) := by
  intro h
  rw [literal_success, literal_failure] at h
  simpa using congrArg String.toList h

theorem literal_inj {left right : Reading} (h : left.literal = right.literal) : left = right := by
  cases left with
  | success left =>
    cases right with
    | success right =>
      rw [literal_success, literal_success, String.append_left_inj, String.append_right_inj] at h
      rw [Node.literal_inj h]
    | failure right => exact absurd h (literal_success_ne left right)
  | failure left =>
    cases right with
    | success right => exact absurd h.symm (literal_success_ne right left)
    | failure right =>
      rw [literal_failure, literal_failure, String.append_left_inj, String.append_right_inj] at h
      rw [SyntaxError.literal_inj h]

end Reading

/-- A literal form is that of one tree only, and of one outcome only: a tree, the end of the input,
or a token that was not expected at a position, if one was given. -/
theorem literal_decides_identity :
    (∀ left right : Node, left.literal = right.literal ↔ left = right) ∧
    ∀ left right : Reading, left.literal = right.literal ↔
      (∃ node, left = .success node ∧ right = .success node) ∨
      (left = .failure .endOfInput ∧ right = .failure .endOfInput) ∨
      ∃ token position, left = .failure (.unexpected token position) ∧
        right = .failure (.unexpected token position) := by
  refine ⟨fun left right => ⟨Node.literal_inj, congrArg _⟩, fun left right => ⟨fun h => ?_, ?_⟩⟩
  · obtain rfl := Reading.literal_inj h
    match left with
    | .success node => exact .inl ⟨node, rfl, rfl⟩
    | .failure .endOfInput => exact .inr (.inl ⟨rfl, rfl⟩)
    | .failure (.unexpected token position) =>
      exact .inr (.inr ⟨token, position, rfl, rfl⟩)
  · rintro (⟨node, rfl, rfl⟩ | ⟨rfl, rfl⟩ | ⟨token, position, rfl, rfl⟩) <;> rfl

end Sexpr
