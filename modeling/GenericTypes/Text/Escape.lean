namespace GenericTypes.Escape

/-- Where a scan stands: in text, after the escape character, in a control sequence, or in an
    operating system command with its last character. -/
inductive State where
  | text
  | introduced
  | control
  | command (last : Char)
deriving DecidableEq, Repr

def escape : Char := '\x1b'

/-- A control sequence ends with a character from `@` to `~`, a command with a bell or with an
    escaped backslash, and any other sequence with the character after the escape. -/
def State.step : State → Char → State
  | .text, c => if c = escape then .introduced else .text
  | .introduced, c => if c = '[' then .control else if c = ']' then .command c else .text
  | .control, c => if 0x40 ≤ c.toNat ∧ c.toNat ≤ 0x7E then .text else .control
  | .command last, c =>
    if c = '\x07' ∨ (last = escape ∧ c = '\\') then .text else .command c

def State.shown (state : State) (chars : List Char) : List Bool :=
  List.zipWith (fun state c => state = .text && c ≠ escape) (chars.scanl State.step state) chars

def State.visible (state : State) (chars : List Char) : List Char :=
  ((chars.zip (state.shown chars)).filter Prod.snd).map Prod.fst

def shown (chars : List Char) : List Bool := State.text.shown chars

def visible (chars : List Char) : List Char := State.text.visible chars

end GenericTypes.Escape
