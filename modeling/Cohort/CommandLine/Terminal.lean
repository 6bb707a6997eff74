/-!
# Text on a terminal

What a text shows once the sequences that control a terminal are taken out of it.
Control characters show nothing either, blanks aside.
-/

set_option autoImplicit false

namespace Cohort

/-- Where a reader of text stands with respect to control sequences. -/
inductive TerminalState where
  /-- Outside of any sequence. -/
  | plain
  /-- Behind an escape character. -/
  | escape
  /-- In an escape sequence, behind an intermediate character. -/
  | intermediate
  /-- In a control sequence, up to its final character. -/
  | control
  /-- In a command to the operating system, up to a bell. -/
  | command
  /-- At the start of a device control string. -/
  | device
  /-- In the parameters of a device control string. -/
  | deviceParameter
  /-- In a device control string, behind an intermediate character. -/
  | deviceIntermediate
  /-- In a string, up to its terminator. -/
  | string
deriving DecidableEq

/-- What shows a text. In a whole text a character that is shown ends the sequence that
it stands in. A stream takes the sequence up again behind all that is shown, unless a
character beyond ASCII was among it. -/
inductive Medium where
  | text
  | stream
deriving DecidableEq

/-- The control characters that are shown, as blanks. -/
def isBlankControl (char : Char) : Bool :=
  char == '\t' || char == '\n' || char == '\x0c' || char == '\r'

/-- Whether the encoding of a character beyond ASCII contains the byte that is a string
terminator when it stands alone. -/
def holdsTerminator (char : Char) : Bool :=
  (String.utf8EncodeChar char).contains 0x9c

namespace TerminalState

/-- Whether a character is shown. A blank is shown in most sequences too. -/
def isShown (state : TerminalState) (char : Char) : Bool :=
  match state with
  | .plain => isBlankControl char || (decide (' ' ≤ char) && char != '\x7f')
  | .escape | .intermediate | .control => isBlankControl char
  | _ => false

/-- The state behind a character of an escape sequence. -/
def afterEscape (char : Char) : TerminalState :=
  if char = '[' then .control
  else if char = ']' then .command
  else if char = 'P' then .device
  else if char ∈ ['X', '^', '_'] then .string
  else if '0' ≤ char ∧ char ≤ '~' then .plain
  else if ' ' ≤ char ∧ char ≤ '/' then .intermediate
  else .escape

/-- The state behind a character at the start of a device control string. Parameters
have to stand in front of all else. -/
def afterDevice (state : TerminalState) (char : Char) : TerminalState :=
  if '@' ≤ char ∧ char ≤ '~' then .string
  else if ' ' ≤ char ∧ char ≤ '/' then .deviceIntermediate
  else if '0' ≤ char ∧ char ≤ '?' then
    match state with
    | .device => .deviceParameter
    | .deviceParameter => if char ≤ ';' then .deviceParameter else .string
    | _ => .string
  else state

/-- The state behind a character that is not shown. -/
def after (state : TerminalState) (char : Char) : TerminalState :=
  if char = '\x1b' then .escape
  else if char = '\x18' ∨ char = '\x1a' then .plain
  else
    match state with
    | .plain => .plain
    | .escape => afterEscape char
    | .intermediate => if '0' ≤ char ∧ char ≤ '~' then .plain else .intermediate
    | .control => if '@' ≤ char ∧ char ≤ '~' then .plain else .control
    | .command => if char = '\x07' then .plain else .command
    | .device => afterDevice .device char
    | .deviceParameter => afterDevice .deviceParameter char
    | .deviceIntermediate => afterDevice .deviceIntermediate char
    | .string => if holdsTerminator char then .plain else .string

/-- The state to take up again behind a character that is shown. -/
def resumed (state : TerminalState) (medium : Medium) (char : Char) : TerminalState :=
  match medium with
  | .text => .plain
  | .stream => if char.toNat < 128 then state else .plain

end TerminalState

namespace Medium

/-- The characters that are shown. While some are, what follows is looked at as outside
of any sequence. -/
def shown (medium : Medium) (state : TerminalState) (showing : Bool) : List Char → List Char
  | [] => []
  | char :: rest =>
      if (if showing then .plain else state : TerminalState).isShown char then
        char :: medium.shown (state.resumed medium char) true rest
      else medium.shown (state.after char) false rest

/-- What a text shows. -/
def shownText (medium : Medium) (text : String) : String :=
  String.ofList (medium.shown .plain false text.toList)

end Medium

/-- The first line, without the line break that ends it, in either form. -/
def firstLine (text : String) : String :=
  let line := text.toList.takeWhile (fun char => char != '\n')
  if line.length < text.length ∧ line.getLast? = some '\r' then String.ofList line.dropLast
  else String.ofList line

/-! ## Text without control characters is shown as it stands -/

theorem TerminalState.isShown_plain_of_isShown {state : TerminalState} {char : Char}
    (visible : state.isShown char = true) : TerminalState.plain.isShown char = true := by
  cases state <;> simp_all [isShown]

theorem Medium.shown_eq_self (medium : Medium) {text : List Char} {showing : Bool}
    (visible : ∀ char ∈ text, TerminalState.plain.isShown char = true) :
    medium.shown .plain showing text = text := by
  induction text generalizing showing with
  | nil => rfl
  | cons char rest ih =>
      have head := visible char List.mem_cons_self
      have tail := fun other member => visible other (List.mem_cons_of_mem char member)
      cases medium <;> simp [shown, TerminalState.resumed, head, ih tail]

/-- All that is shown is shown outside of sequences. -/
theorem Medium.isShown_of_mem_shown {medium : Medium} {state : TerminalState} {showing : Bool}
    {text : List Char} {char : Char} (member : char ∈ medium.shown state showing text) :
    TerminalState.plain.isShown char = true := by
  induction text generalizing state showing with
  | nil => simp [shown] at member
  | cons head rest ih =>
      by_cases visible :
          (if showing then .plain else state : TerminalState).isShown head = true
      · simp only [shown, visible, if_true] at member
        rcases List.mem_cons.mp member with same | later
        · subst same
          exact TerminalState.isShown_plain_of_isShown visible
        · exact ih later
      · rw [shown, if_neg visible] at member
        exact ih member

/-- Showing a text a second time takes nothing more out of it. -/
theorem Medium.shown_shown (medium other : Medium) (state : TerminalState) (showing : Bool)
    (text : List Char) :
    other.shown .plain false (medium.shown state showing text) =
      medium.shown state showing text :=
  other.shown_eq_self (fun _ member => isShown_of_mem_shown member)

end Cohort
