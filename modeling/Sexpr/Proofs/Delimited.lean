import Sexpr.Text.Character

/-!
# Texts that can be taken apart

An item is delimited by its code if the code shows which item it is and where it ends, whatever
comes after (`Delimited`). Codes one after another are then told apart up to a mark that starts none
of them (`flatMap_append_inj`); for this it is enough that each is told where another code or the
mark comes after it (`flatMap_append_inj_of_after`). Hexadecimal digits of a known width are such a
code of the numbers that fit the width (`Text.hexDigits_append_inj`).

Two kinds of text are built from such codes. Between quotes, a character is written by a letter
after a backslash, as itself, or by a code after a backslash (`Text.Escaping`), so that the text
between the quotes is told from what is written (`Text.Escaping.append_inj`). In brackets, items
are divided by commas: a written item ends where the text ends, at a comma or at a closing bracket
(`Text.Stops`), and if none can be taken for another up to such a place (`Text.Told`), neither can
the whole list (`Text.told_separated`).
-/

namespace Sexpr

/-- An item is told from its code, and where the code ends, whatever comes after it. -/
def Delimited (code : α → List β) (item : α) : Prop :=
  ∀ (other : α) (x y : List β), code item ++ x = code other ++ y → item = other ∧ x = y

/-- Items are told from their codes up to a mark that starts no code, if each of them is told where
a code or the mark may come after it. -/
theorem flatMap_append_inj_of_after {code : α → List β} {stop : β} (after : List β → Prop)
    (ha : ∀ (items : List α) (x : List β), after (items.flatMap code ++ stop :: x))
    (hs : ∀ (item : α) (x y : List β), stop :: x ≠ code item ++ y) {items : List α}
    (h : ∀ item ∈ items, ∀ (other : α) (x y : List β), after x → after y →
      code item ++ x = code other ++ y → item = other ∧ x = y) :
    ∀ (others : List α) (x y : List β),
      items.flatMap code ++ stop :: x = others.flatMap code ++ stop :: y →
        items = others ∧ x = y := by
  induction items with
  | nil =>
    intro others x y he
    cases others with
    | nil => exact ⟨rfl, (List.cons.inj he).2⟩
    | cons other others =>
      rw [List.flatMap_cons, List.append_assoc] at he
      exact absurd he (hs other _ _)
  | cons item items ih =>
    intro others x y he
    rw [List.flatMap_cons, List.append_assoc] at he
    cases others with
    | nil => exact absurd he.symm (hs item _ _)
    | cons other others =>
      rw [List.flatMap_cons, List.append_assoc] at he
      obtain ⟨rfl, hr⟩ := h item List.mem_cons_self other _ _ (ha items x) (ha others y) he
      obtain ⟨rfl, hxy⟩ := ih (fun i hi => h i (List.mem_cons_of_mem _ hi)) others x y hr
      exact ⟨rfl, hxy⟩

/-- Delimited items are told from their codes up to a mark that starts no code. -/
theorem flatMap_append_inj {code : α → List β} {stop : β}
    (hs : ∀ (item : α) (x y : List β), stop :: x ≠ code item ++ y) {items : List α}
    (h : ∀ item ∈ items, Delimited code item) :
    ∀ (others : List α) (x y : List β),
      items.flatMap code ++ stop :: x = others.flatMap code ++ stop :: y →
        items = others ∧ x = y :=
  flatMap_append_inj_of_after (fun _ => True) (fun _ _ => trivial) hs
    fun item hi other x y _ _ => h item hi other x y

namespace Text

/-! ## Hexadecimal digits -/

/-- The value of a hexadecimal digit. -/
def hexValue (c : Char) : Nat :=
  if c.toNat < 0x57 then c.toNat - 0x30 else c.toNat - 0x57

/-- The number with these hexadecimal digits. -/
def ofHexDigits (digits : List Char) : Nat :=
  digits.foldl (fun value c => value * 16 + hexValue c) 0

theorem hexValue_hexDigit : ∀ value < 16, hexValue (hexDigit value) = value := by
  decide

theorem length_hexDigits (width value : Nat) : (hexDigits width value).length = width := by
  induction width generalizing value with
  | zero => rfl
  | succ width ih => rw [hexDigits, List.length_append, ih, List.length_singleton]

theorem ofHexDigits_hexDigits {width value : Nat} (h : value < Nat.pow 16 width) :
    ofHexDigits (hexDigits width value) = value := by
  induction width generalizing value with
  | zero =>
    obtain rfl : value = 0 := Nat.lt_one_iff.mp h
    rfl
  | succ width ih =>
    have hd : value / 16 < Nat.pow 16 width := (Nat.div_lt_iff_lt_mul (by decide)).mpr h
    have hi := ih hd
    rw [ofHexDigits] at hi
    rw [ofHexDigits, hexDigits, List.foldl_append, hi, List.foldl_cons, List.foldl_nil,
      hexValue_hexDigit _ (Nat.mod_lt _ (by decide))]
    omega

/-- A number that fits a width is told from its digits, which end with the width. -/
theorem hexDigits_append_inj {width left right : Nat} (hl : left < Nat.pow 16 width)
    (hr : right < Nat.pow 16 width) {x y : List Char}
    (h : hexDigits width left ++ x = hexDigits width right ++ y) : left = right ∧ x = y := by
  obtain ⟨hd, hxy⟩ := List.append_inj h (by rw [length_hexDigits, length_hexDigits])
  refine ⟨?_, hxy⟩
  rw [← ofHexDigits_hexDigits hl, hd, ofHexDigits_hexDigits hr]

/-! ## Texts between quotes -/

/-- A way to write characters between quotes: by a letter after a backslash that names the
character, as itself, or by a code that starts with a backslash and a letter that names none. -/
structure Escaping (quote : Char) (escape : Char → List Char) where
  named : Char → Option Char
  coded : Char → List Char
  quote_ne : quote ≠ '\\'
  escape_cases (c : Char) :
    (∃ letter, escape c = ['\\', letter] ∧ named letter = some c) ∨
    (escape c = [c] ∧ c ≠ quote ∧ c ≠ '\\') ∨ escape c = coded c
  coded_eq (c : Char) : ∃ letter rest, coded c = '\\' :: letter :: rest ∧ named letter = none
  coded_delimited (c : Char) : Delimited coded c

namespace Escaping

variable {quote : Char} {escape : Char → List Char}

/-- Two characters whose escapes start the same text are the same. -/
theorem delimited (escaping : Escaping quote escape) (c : Char) : Delimited escape c := by
  intro d x y h
  obtain ⟨l', cs, hcs, hn⟩ := escaping.coded_eq c
  obtain ⟨m', ds, hds, hn'⟩ := escaping.coded_eq d
  rcases escaping.escape_cases c with ⟨l, hc, hl⟩ | ⟨hc, -, hb⟩ | hc <;>
    rcases escaping.escape_cases d with ⟨m, hd, hm⟩ | ⟨hd, -, hb'⟩ | hd <;>
    rw [hc, hd] at h
  · simp only [List.cons_append, List.nil_append, List.cons.injEq, true_and] at h
    obtain ⟨rfl, hxy⟩ := h
    exact ⟨Option.some.inj (hl.symm.trans hm), hxy⟩
  · exact absurd (List.cons.inj h).1.symm hb'
  · -- A letter that names a character starts no code.
    rw [hds] at h
    obtain rfl := (List.cons.inj (List.cons.inj h).2).1
    cases hl.symm.trans hn'
  · exact absurd (List.cons.inj h).1 hb
  · exact List.cons.inj h
  · rw [hds] at h
    exact absurd (List.cons.inj h).1 hb
  · rw [hcs] at h
    obtain rfl := (List.cons.inj (List.cons.inj h).2).1
    cases hm.symm.trans hn
  · rw [hcs] at h
    exact absurd (List.cons.inj h).1.symm hb'
  · exact escaping.coded_delimited c d x y h

/-- No escape starts with the quote that ends a text. -/
theorem quote_cons_ne (escaping : Escaping quote escape) (c : Char) (x y : List Char) :
    quote :: x ≠ escape c ++ y := by
  intro h
  obtain ⟨letter, rest, hr, -⟩ := escaping.coded_eq c
  rcases escaping.escape_cases c with ⟨l, hc, -⟩ | ⟨hc, hq, -⟩ | hc
  · rw [hc] at h
    exact escaping.quote_ne (List.cons.inj h).1
  · rw [hc] at h
    exact hq (List.cons.inj h).1.symm
  · rw [hc, hr] at h
    exact escaping.quote_ne (List.cons.inj h).1

/-- A text is told from what is written up to the quote that ends it. -/
theorem append_inj (escaping : Escaping quote escape) {left right x y : List Char}
    (h : left.flatMap escape ++ quote :: x = right.flatMap escape ++ quote :: y) :
    left = right ∧ x = y :=
  flatMap_append_inj escaping.quote_cons_ne (fun c _ => escaping.delimited c) right x y h

end Escaping

/-! ## Texts that end at a comma or a bracket -/

/-- What comes after a written value: nothing, a comma or a closing bracket. -/
def Stops (rest : List Char) : Prop :=
  ∀ c ∈ rest.head?, c = ',' ∨ c = ']' ∨ c = '\x7d'

theorem Stops.cons {c : Char} (h : c = ',' ∨ c = ']' ∨ c = '\x7d') (rest : List Char) :
    Stops (c :: rest) := by
  intro d hd
  obtain rfl := Option.some.inj hd
  exact h

theorem stops_nil : Stops [] := nofun

/-- A value can be told from its written form, wherever that stops. -/
def Told (piece : α → List Char) (item : α) : Prop :=
  ∀ (other : α) (x y : List Char), Stops x → Stops y →
    piece item ++ x = piece other ++ y → item = other ∧ x = y

/-- A written form does not start as if it had stopped. -/
def Starts (piece : α → List Char) : Prop :=
  ∀ item, ∃ c rest, piece item = c :: rest ∧ c ≠ ',' ∧ c ≠ ']' ∧ c ≠ '\x7d'

/-- Values that come after another one, each with a comma before it. -/
def following (piece : α → List Char) (items : List α) : List Char :=
  items.flatMap fun item => ',' :: ' ' :: piece item

theorem intercalate_cons (piece : α → List Char) (item : α) (rest : List α) :
    [',', ' '].intercalate ((item :: rest).map piece) = piece item ++ following piece rest := by
  induction rest generalizing item with
  | nil => simp [following]
  | cons next rest ih =>
    rw [List.map_cons, List.map_cons, List.intercalate_cons_cons, ← List.map_cons, ih, following,
      following, List.flatMap_cons, List.append_assoc]
    rfl

theorem stops_following {close : Char} (hc : close = ']' ∨ close = '\x7d')
    (piece : α → List Char) (items : List α) (x : List Char) :
    Stops (following piece items ++ close :: x) := by
  cases items with
  | nil => exact .cons (.inr hc) x
  | cons item items => exact .cons (.inl rfl) _

/-- Values that come after another one, up to the closing bracket. -/
theorem told_following {piece : α → List Char} {close : Char} (hc : close = ']' ∨ close = '\x7d')
    {items : List α} (ht : ∀ item ∈ items, Told piece item) :
    ∀ (others : List α) (x y : List Char),
      following piece items ++ close :: x = following piece others ++ close :: y →
        items = others ∧ x = y := by
  have hne : close ≠ ',' := by rcases hc with rfl | rfl <;> decide
  refine flatMap_append_inj_of_after Stops (stops_following hc piece) (fun item x y he => ?_)
    fun item hi other x y hx hy he => ?_
  · exact hne (List.cons.inj he).1
  · exact ht item hi other x y hx hy (List.cons.inj (List.cons.inj he).2).2

/-- Values with commas between them and a bracket after them can be told from the text, if each of
them can. -/
theorem told_separated {piece : α → List Char} (hs : Starts piece) {close : Char}
    (hc : close = ']' ∨ close = '\x7d') {items : List α} (ht : ∀ item ∈ items, Told piece item)
    (others : List α) (x y : List Char)
    (h : [',', ' '].intercalate (items.map piece) ++ close :: x =
      [',', ' '].intercalate (others.map piece) ++ close :: y) : items = others ∧ x = y := by
  have hne : ∀ (item : α) (tail x : List Char), close :: x ≠ piece item ++ tail := by
    intro item tail x he
    obtain ⟨c, rest, hp, -, hb, hb'⟩ := hs item
    rw [hp, List.cons_append, List.cons.injEq] at he
    rcases hc with rfl | rfl
    · exact hb he.1.symm
    · exact hb' he.1.symm
  cases items with
  | nil =>
    cases others with
    | nil => exact ⟨rfl, (List.cons.inj h).2⟩
    | cons other others =>
      rw [intercalate_cons, List.append_assoc] at h
      exact absurd h (hne other _ x)
  | cons item items =>
    cases others with
    | nil =>
      rw [intercalate_cons, List.append_assoc] at h
      exact absurd h.symm (hne item _ y)
    | cons other others =>
      rw [intercalate_cons, intercalate_cons, List.append_assoc, List.append_assoc] at h
      obtain ⟨rfl, hr⟩ := ht item List.mem_cons_self other _ _ (stops_following hc piece items x)
        (stops_following hc piece others y) h
      obtain ⟨rfl, hxy⟩ :=
        told_following hc (fun i hi => ht i (List.mem_cons_of_mem _ hi)) others x y hr
      exact ⟨rfl, hxy⟩

/-- Two runs of characters of a kind that end where the kind ends are the same run. -/
theorem append_inj_of_run {p : Char → Bool} {left right x y : List Char}
    (hl : ∀ c ∈ left, p c = true) (hr : ∀ c ∈ right, p c = true)
    (hx : ∀ c ∈ x.head?, p c = false) (hy : ∀ c ∈ y.head?, p c = false)
    (h : left ++ x = right ++ y) : left = right ∧ x = y := by
  have take : ∀ {run rest : List Char}, (∀ c ∈ run, p c = true) →
      (∀ c ∈ rest.head?, p c = false) → (run ++ rest).takeWhile p = run := by
    intro run rest hrun hrest
    rw [List.takeWhile_append_of_pos hrun]
    cases rest with
    | nil => simp
    | cons c rest => simp [hrest c rfl]
  have he : left = right := by rw [← take hl hx, h, take hr hy]
  subst he
  exact ⟨rfl, List.append_cancel_left h⟩

end Text

end Sexpr
