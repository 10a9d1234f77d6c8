import Sexpr.Proofs.Comments
import Sexpr.Proofs.Waiting

/-!
# Entries of a session

Where a session has no lines at hand, all that is left of its inputs is its mode, which every entry
`verbose-mode` has switched:

* `Waiting.action_eq_switch_iff`: such an entry is one line at the first prompt;
* `Waiting.settings_accept`, `Waiting.settings_after`: what one line, and what all inputs do to
  the format and the mode;
* `EntryOf.after_eq`: an entry that is read leaves nothing behind, whatever is wrong with it.

So a session goes on as a fresh one in the mode that it is in (`run_after_entries`).
-/

namespace Sexpr.Session

theorem prompt_eq_first_iff (session : Session) :
    session.prompt = ">>> " ↔ session.pending = [] := by
  rw [prompt]
  cases session.pending <;> simp

/-! ## Switching the mode -/

/-- Whether an input is the command that switches the mode. -/
def isSwitch : Input → Bool
  | .line text => Text.lower (Text.trim text) == "verbose-mode"
  | .interrupt => false

/-- A command that switches the mode is no other command, no comment, and leaves no group open. -/
theorem plain_of_isSwitch {line : String} (h : isSwitch (.line line) = true) :
    isFarewell line = false ∧ isComment line = false ∧ Token.balance line ≤ 0 := by
  have hl : Text.lower (Text.trim line) = "verbose-mode" := beq_iff_eq.mp h
  -- A character without case that is not in the command is not in the line either.
  have hn : ∀ c : Char, c ≠ '\u03a3' → Text.lowerChar c = [c] → c ∉ "verbose-mode".toList →
      c ∉ (Text.trim line).toList := by
    intro c hs hc hv hm
    have hm' := Text.mem_lower hs hc hm
    rw [hl] at hm'
    exact hv hm'
  refine ⟨?_, ?_, ?_⟩
  · rw [← Bool.not_eq_true, isFarewell_iff]
    rintro (he | he)
    · rw [he] at hl
      exact absurd hl (by decide)
    · rw [he] at hl
      exact absurd hl (by decide)
  · rw [← Bool.not_eq_true]
    intro hc
    exact hn ';' (by decide) (by decide) (by decide) (mem_trim_of_isComment hc)
  · have ho := hn '(' (by decide) (by decide) (by decide)
    rw [← Token.balance_trim, Token.balance, List.count_eq_zero.mpr ho]
    omega

/-- The entries that switch the mode are one line each, at the first prompt. -/
theorem Waiting.action_eq_switch_iff {session : Session} (h : session.Waiting) (line : String) :
    session.action line = .switch ↔ session.pending = [] ∧ isSwitch (.line line) = true := by
  constructor
  · intro ha
    rcases action_cases session line with ⟨-, -, hb⟩ | ⟨-, hb⟩ | ⟨hd, hb⟩ | ⟨-, hb⟩
    · cases hb.symm.trans ha
    · cases hb.symm.trans ha
    · rw [hb] at ha
      rcases ofText_cases (entryText (session.pending ++ [line])) with ⟨-, ht⟩ | ⟨hl, -⟩ | ht
      · cases ht.symm.trans ha
      · have hp : session.pending = [] :=
          Decidable.by_contra fun hp => h.entry_not_switch hp hd hl
        rw [hp, List.nil_append, entryText, String.intercalate_singleton] at hl
        exact ⟨hp, beq_iff_eq.mpr hl⟩
      · cases ht.symm.trans ha
    · cases hb.symm.trans ha
  · rintro ⟨hp, hl⟩
    obtain ⟨hf, hc, hb⟩ := plain_of_isSwitch hl
    have hd := h.pending_eq_nil_iff.mp hp
    have hl' : Text.lower (Text.trim line) = "verbose-mode" := beq_iff_eq.mp hl
    rw [action, hf, hc, hp, hd, List.nil_append, entryText, String.intercalate_singleton,
      Action.ofText]
    rw [if_neg (by simp), if_neg (by simp), if_pos (by omega), if_neg, if_pos hl']
    intro he
    rw [he] at hl'
    exact absurd hl' (by decide)

/-! ## What inputs leave behind -/

theorem settings_perform {session next : Session} {line : String} {action : Action}
    (hn : (session.perform line action).next = some next) :
    next.format = session.format ∧
      next.verbose = if action = .switch then !session.verbose else session.verbose := by
  cases action with
  | leave => cases hn
  | skip | collect | pass | switch | read =>
    obtain rfl := Option.some.inj hn
    exact ⟨rfl, rfl⟩

/-- A line keeps the format, and switches the mode if it is the command for it. -/
theorem Waiting.settings_accept {session next : Session} {line : String} (h : session.Waiting)
    (hn : (session.accept line).next = some next) :
    next.format = session.format ∧
      next.verbose = if session.prompt == ">>> " && isSwitch (.line line) then !session.verbose
        else session.verbose := by
  rw [accept_eq_perform] at hn
  obtain ⟨hf, hv⟩ := settings_perform hn
  have hs : session.action line = .switch ↔
      (session.prompt == ">>> " && isSwitch (.line line)) = true := by
    rw [h.action_eq_switch_iff, ← prompt_eq_first_iff, Bool.and_eq_true, beq_iff_eq]
  simp only [hs] at hv
  exact ⟨hf, hv⟩

/-- How many inputs are entries that switch the mode: they are given at the first prompt. -/
def switches (session : Session) (inputs : List Input) : Nat :=
  (inputs.zip (session.turns inputs)).countP fun item =>
    item.2.prompt == ">>> " && isSwitch item.1

theorem switches_cons {session next : Session} {text : String}
    (hn : (session.accept text).next = some next) (rest : List Input) :
    session.switches (.line text :: rest) = next.switches rest +
      if session.prompt == ">>> " && isSwitch (.line text) then 1 else 0 := by
  rw [switches, turns, step, hn, List.zip_cons_cons, List.countP_cons]
  rfl

theorem repeat_not (count : Nat) (flag : Bool) :
    Nat.repeat not count (!flag) = !Nat.repeat not count flag := by
  induction count with
  | zero => rfl
  | succ count ih => exact congrArg not ih

/-- Inputs keep the format, and switch the mode once for every entry that is the command for it. -/
theorem Waiting.settings_after {inputs : List Input} {last : Session} :
    ∀ {session : Session}, session.Waiting → session.after inputs = some last →
      last.format = session.format ∧
        last.verbose = Nat.repeat not (session.switches inputs) session.verbose := by
  induction inputs with
  | nil =>
    intro session _ h
    obtain rfl := Option.some.inj h
    exact ⟨rfl, rfl⟩
  | cons input rest ih =>
    intro session hw h
    cases input with
    | interrupt => cases h
    | line text =>
      rw [Session.after, Session.step] at h
      cases hn : (session.accept text).next with
      | none => rw [hn] at h; cases h
      | some next =>
        rw [hn] at h
        obtain ⟨hf, hv⟩ := ih (hw.accept hn) h
        obtain ⟨hf', hv'⟩ := hw.settings_accept hn
        refine ⟨hf.trans hf', ?_⟩
        rw [hv, hv', switches_cons hn]
        split
        · exact repeat_not (next.switches rest) session.verbose
        · rfl

/-- A session that waits with nothing at hand is a fresh one. -/
theorem Waiting.eq_fresh {session : Session} (h : session.Waiting) (hp : session.pending = []) :
    session = { format := session.format, verbose := session.verbose } := by
  have hd := h.pending_eq_nil_iff.mp hp
  cases session
  simp_all

/-! ## Entries that are read -/

/-- Lines that are one entry for a session: at all of them but the first it asks for more, and it
reads one text on them, with this outcome. -/
structure EntryOf (session : Session) (lines : List String) (reading : Reading) : Prop where
  asks : ∀ turn ∈ (session.turns (lines.map .line)).tail, turn.prompt = "... "
  reads : session.readings (lines.map .line) = [reading]

/-- With nothing at hand, a session does not ask for more. -/
theorem eq_nil_of_asks {session : Session} {inputs : List Input} (hp : session.pending = [])
    (h : ∀ turn ∈ session.turns inputs, turn.prompt = "... ") : inputs = [] := by
  cases inputs with
  | nil => rfl
  | cons input rest =>
    have hq := h _ List.mem_cons_self
    exact absurd hp ((prompt_eq_iff session).mp hq)

/-- An entry that is read leaves nothing at hand and the settings as they are, whatever its
outcome. -/
theorem EntryOf.after_eq {lines : List String} {reading : Reading} :
    ∀ {session : Session}, session.EntryOf lines reading →
      session.after (lines.map .line) = some session.fresh := by
  induction lines with
  | nil =>
    intro session h
    cases h.reads
  | cons line rest ih =>
    intro session ⟨hp, hr⟩
    rw [List.map_cons, turns, List.tail_cons, step] at hp
    rw [List.map_cons, readings] at hr
    rw [List.map_cons, after, step]
    rw [accept_eq_perform] at hp hr ⊢
    rcases action_cases session line with ⟨-, -, ha⟩ | ⟨-, ha⟩ | ⟨-, ha⟩ | ⟨-, ha⟩
    · rw [ha] at hr
      cases hr
    · rw [ha] at hp hr ⊢
      exact ih ⟨fun turn hm => hp turn (List.mem_of_mem_tail hm), hr⟩
    · -- The entry is complete, so this is its last line.
      obtain ⟨clear, hc, hn, -⟩ :=
        next_of_ofText session line (entryText (session.pending ++ [line]))
      rw [ha, hc] at hp hr
      rw [ha, eq_nil_of_asks hn hp]
      rw [eq_nil_of_asks hn hp] at hr
      rcases ofText_cases (entryText (session.pending ++ [line])) with ⟨-, ht⟩ | ⟨-, ht⟩ | ht
      · rw [ht] at hr
        cases hr
      · rw [ht] at hr
        cases hr
      · rw [ht]
        rfl
    · rw [ha] at hp hr ⊢
      exact ih ⟨fun turn hm => hp turn (List.mem_of_mem_tail hm), hr⟩

/-! ## Going on after entries -/

/-- A session that has no lines at hand goes on as a fresh one would, in the mode that its inputs
have left it in. So an entry that is read can be left out, also one with an error in it: the turns
before and after it stay as they are. Nothing that comes after a farewell is read. -/
theorem run_after_entries {format : Format} {verbose : Bool} {inputs : List Input}
    {last : Session} (h : after { format, verbose } inputs = some last) (hp : last.pending = []) :
    let start : Session := { format, verbose }
    let next : Session := { format, verbose := Nat.repeat not (start.switches inputs) verbose }
    (∀ more, start.run (inputs ++ more) =
      ⟨start.turns inputs ++ (next.run more).turns, (next.run more).unread⟩) ∧
    (∀ lines reading more, next.EntryOf lines reading →
      start.run (inputs ++ (lines.map .line ++ more)) =
        ⟨start.turns inputs ++ (next.turns (lines.map .line) ++ (next.run more).turns),
          (next.run more).unread⟩) ∧
    ∀ line more, Text.trim line = "exit" ∨ Text.trim line = "quit" →
      start.run (inputs ++ .line line :: more) =
        ⟨start.turns inputs ++ [⟨">>> ", "Exiting Lisp REPL.\n", []⟩], more.length⟩ := by
  intro start next
  have hs : start.Waiting := .of_nothing rfl rfl
  obtain ⟨hf, hv⟩ := hs.settings_after h
  have hl : last = next := by
    rw [(hs.after h).eq_fresh hp, hf, hv]
  rw [hl] at h
  have hr := fun more => run_append_of_after more h
  refine ⟨hr, fun lines reading more he => ?_, fun line more hq => ?_⟩
  · rw [hr, run_append_of_after more he.after_eq]
    rfl
  · rw [hr, run, step, accept, (isFarewell_iff line).mpr hq]
    rfl

/-- After an error and a command that switches the mode: the end of input, an entry of two lines
with an error before a tree, and a farewell. -/
theorem run_after_entries_each :
    after { format := .listing, verbose := false } [.line ")", .line " Verbose-Mode"] =
        some { format := .listing, verbose := true } ∧
      switches { format := .listing, verbose := false } [.line ")", .line " Verbose-Mode"] = 1 ∧
      EntryOf { format := .listing, verbose := true } ["(b", "))"]
        (.failure (.unexpected ")" (some 3))) ∧
      run { format := .listing, verbose := false }
          [.line ")", .line " Verbose-Mode", .line "(b", .line "))", .line "a"] =
        ⟨turns { format := .listing, verbose := false } [.line ")", .line " Verbose-Mode"] ++
          (turns { format := .listing, verbose := true } [.line "(b", .line "))"] ++
            (run { format := .listing, verbose := true } [.line "a"]).turns),
          (run { format := .listing, verbose := true } [.line "a"]).unread⟩ ∧
      run { format := .listing, verbose := false } [.line ")", .line " Verbose-Mode", .line "a"] =
        ⟨turns { format := .listing, verbose := false } [.line ")", .line " Verbose-Mode"] ++
          (run { format := .listing, verbose := true } [.line "a"]).turns,
          (run { format := .listing, verbose := true } [.line "a"]).unread⟩ ∧
      run { format := .listing, verbose := false }
          [.line ")", .line " Verbose-Mode", .line "exit ", .line "a"] =
        ⟨turns { format := .listing, verbose := false } [.line ")", .line " Verbose-Mode"] ++
          [⟨">>> ", "Exiting Lisp REPL.\n", []⟩], 1⟩ := by
  have ha : after { format := .listing, verbose := false }
      [.line ")", .line " Verbose-Mode"] = some { format := .listing, verbose := true } := by decide
  have hs : switches { format := .listing, verbose := false }
      [.line ")", .line " Verbose-Mode"] = 1 := by decide
  have he : EntryOf { format := .listing, verbose := true } ["(b", "))"]
      (.failure (.unexpected ")" (some 3))) := by
    have hc : action { format := .listing, verbose := true } "(b" = .collect := by decide
    have hr : action ⟨.listing, true, [] ++ ["(b"], 0 + Token.balance "(b"⟩ "))" =
        .read "(b ))" := by decide
    have hf : Reader.all "(b ))" = .failure (.unexpected ")" (some 3)) := by
      rw [Reader.all_eq_gather]
      rfl
    refine ⟨by decide, ?_⟩
    simp only [List.map_cons, List.map_nil, readings, accept_eq_perform, hc, perform, hr,
      Action.reading?, hf]
    rfl
  obtain ⟨hm, hx, hq⟩ := run_after_entries ha rfl
  have hn : Nat.repeat not 1 false = true := rfl
  rw [hs, hn] at hm hx
  exact ⟨ha, hs, he, hx _ _ [.line "a"] he, hm [.line "a"],
    hq "exit " [.line "a"] (.inl (by decide))⟩

end Sexpr.Session
