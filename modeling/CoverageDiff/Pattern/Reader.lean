import CoverageDiff.Pattern.Expr
import CoverageDiff.Text.Identifier
import CoverageDiff.Text.Numeral
import CoverageDiff.Text.Rest

/-!
# CoverageDiff.Pattern.Reader

Reading regular expressions.

1. A text is first cut into tokens: a backslash and the character after it
   belong together.  A backslash at the end is a token of its own, and a fault
   where it is met.
2. Groups that are open are kept on a stack of frames, innermost first.  A
   token either adds an item to the innermost frame, changes its last item,
   opens a frame or closes one.
3. Flags for the whole expression may only stand at its start.
4. A part that looks back must match texts of one length.
5. Of several faults the first is reported; only at the end, or at a closing
   parenthesis too many, it shows that flags are in conflict.

Left out: an escape `\N` with the name of a character counts as unknown, and
there is no limit on how deep groups may nest.
-/

namespace CoverageDiff.Pattern

open Text

/-! ## Errors and tokens -/

/-- Why a text is not a regular expression. -/
inductive ReadError where
  /-- A backslash at the end, or before a character that it gives no meaning. -/
  | escape
  /-- A set of characters that does not end. -/
  | openSet
  /-- A range of characters that runs backwards or has a class for an end. -/
  | range
  /-- Nothing stands before a repetition. -/
  | nothingToRepeat
  /-- A repetition is repeated. -/
  | repeatedTwice
  /-- A repetition with a least number above the greatest. -/
  | boundsCrossed
  /-- A repetition with a number that is too large. -/
  | boundTooLarge
  /-- A repetition with a number of more digits than are read. -/
  | boundTooLong (count : Nat)
  /-- A group of an unknown kind, or without a proper name. -/
  | groupForm
  /-- A name or number that no group has, or that several have. -/
  | groupName
  /-- A reference to a group that is not closed yet. -/
  | groupOpen
  /-- A closing parenthesis too many or too few. -/
  | parenthesis
  /-- Flags of an unknown kind, or in the wrong place. -/
  | flags
  /-- Flags for ASCII and against it on the whole expression. -/
  | flagsConflict
  /-- A part that looks back and matches texts of several lengths. -/
  | lengthVaries
  deriving DecidableEq

/-- A character of an expression, with the backslash before it if there is one. -/
inductive Token where
  /-- A character that stands alone. -/
  | plain (c : Char)
  /-- A character after a backslash. -/
  | escaped (c : Char)
  /-- A backslash at the end. -/
  | dangling
  deriving DecidableEq

namespace Token

/-- The tokens of a text. -/
def ofText : List Char → List Token
  | [] => []
  | '\\' :: c :: cs => .escaped c :: ofText cs
  | c :: cs => (if c = '\\' then .dangling else .plain c) :: ofText cs

/-- The characters of tokens. -/
def text : List Token → List Char
  | [] => []
  | .plain c :: ts => c :: text ts
  | .escaped c :: ts => '\\' :: c :: text ts
  | .dangling :: ts => '\\' :: text ts

end Token

/-! ## Runs of tokens -/

/-- At most `n` plain characters of a class, and the tokens after them. -/
def takePlain (p : Char → Bool) : Nat → List Token → List Char × List Token
  | 0, ts => ([], ts)
  | _, [] => ([], [])
  | n + 1, .plain c :: ts =>
    if p c then
      let (cs, after) := takePlain p n ts
      (c :: cs, after)
    else ([], .plain c :: ts)
  | _ + 1, ts => ([], ts)

/-- The tokens before the next plain `stop`, and those after it. -/
def upToPlain (stop : Char) : List Token → Option (List Token × List Token)
  | [] => none
  | t :: ts =>
    if t = .plain stop then some ([], ts)
    else (upToPlain stop ts).map fun (inside, after) => (t :: inside, after)

/-- The tokens after the next plain `stop`; if there is none, a backslash at the end is left. -/
def skipPast (stop : Char) (ts : List Token) : List Token :=
  match upToPlain stop ts with
  | some (_, after) => after
  | none => ts.filter (· = .dangling)

/-- The tokens after one plain character, if it comes next. -/
def afterPlain? (c : Char) : List Token → Option (List Token)
  | .plain d :: ts => if c = d then some ts else none
  | _ => none

/-! ## Numbers -/

/-- An ASCII digit. -/
def isAsciiDigit (c : Char) : Bool := '0' ≤ c && c ≤ '9'

/-- An octal digit. -/
def isOctalDigit (c : Char) : Bool := '0' ≤ c && c ≤ '7'

/-- An ASCII letter. -/
def isAsciiLetter (c : Char) : Bool := ('a' ≤ c && c ≤ 'z') || ('A' ≤ c && c ≤ 'Z')

/-- The value of a hexadecimal digit. -/
def hexValue? (c : Char) : Option Nat :=
  if '0' ≤ c && c ≤ '9' then some (c.toNat - 48)
  else if 'a' ≤ c && c ≤ 'f' then some (c.toNat - 87)
  else if 'A' ≤ c && c ≤ 'F' then some (c.toNat - 55)
  else none

/-- The number that digits denote. -/
def numberOf (base : Nat) (digits : List Char) : Nat :=
  digits.foldl (fun n c => base * n + (hexValue? c).getD 0) 0

/-- A number of exactly `count` hexadecimal digits. -/
def takeHex (count : Nat) (ts : List Token) : Except ReadError (Nat × List Token) :=
  let (digits, after) := takePlain (fun c => (hexValue? c).isSome) count ts
  if digits.length = count then .ok (numberOf 16 digits, after) else .error .escape

/-- The code point of an octal escape, which is at most `0o377`. -/
def octalCode (digits : List Char) : Except ReadError Nat :=
  let n := numberOf 8 digits
  if 0o377 < n then .error .escape else .ok n

/-! ## Escapes -/

/-- The named class of an escape. -/
def category? : Char → Option SetItem
  | 'd' => some (.category .digit false)
  | 'D' => some (.category .digit true)
  | 's' => some (.category .blank false)
  | 'S' => some (.category .blank true)
  | 'w' => some (.category .word false)
  | 'W' => some (.category .word true)
  | _ => none

/-- The condition of an escape. -/
def anchor? : Char → Option Anchor
  | 'A' => some .textStart
  | 'Z' => some .textEnd
  | 'b' => some (.wordEdge false)
  | 'B' => some (.wordEdge true)
  | _ => none

/-- The code point of an escape for a control. -/
def controlCode? : Char → Option Nat
  | 'a' => some 7
  | 'f' => some 12
  | 'n' => some 10
  | 'r' => some 13
  | 't' => some 9
  | 'v' => some 11
  | _ => none

/-- The code point of an escape with a meaning both inside and outside sets. -/
def codeEscape (c : Char) (ts : List Token) : Except ReadError (Nat × List Token) :=
  match controlCode? c with
  | some n => .ok (n, ts)
  | none =>
    if c = 'x' then takeHex 2 ts
    else if c = 'u' then takeHex 4 ts
    else if c = 'U' then do
      let (n, after) ← takeHex 8 ts
      if 0x10ffff < n then .error .escape else .ok (n, after)
    else if isAsciiLetter c || isAsciiDigit c then .error .escape
    else .ok (c.toNat, ts)

/-- The item of an escape inside a set. -/
def setEscape (c : Char) (ts : List Token) : Except ReadError (SetItem × List Token) :=
  match category? c with
  | some item => .ok (item, ts)
  | none =>
    if c = 'b' then .ok (.code 8, ts)
    else if isOctalDigit c then
      let (digits, after) := takePlain isOctalDigit 2 ts
      (octalCode (c :: digits)).map fun n => (.code n, after)
    else (codeEscape c ts).map fun (n, after) => (.code n, after)

/-! ## Sets of characters -/

/-- The item that a token of a set stands for. -/
def setItem (t : Token) (ts : List Token) : Except ReadError (SetItem × List Token) :=
  match t with
  | .plain c => .ok (.code c.toNat, ts)
  | .escaped c => setEscape c ts
  | .dangling => .error .escape

/-- The range between two items. -/
def rangeOf : SetItem → SetItem → Except ReadError SetItem
  | .code lo, .code hi => if hi < lo then .error .range else .ok (.range lo hi)
  | _, _ => .error .range

/-- The items of a set up to its end, after those in `items`, last first. -/
def readSetItems (items : List SetItem) (ts : List Token) :
    Except ReadError (List SetItem × List Token) :=
  match ts with
  | [] => .error .openSet
  | t :: more =>
    if t = .plain ']' && !items.isEmpty then .ok (items.reverse, more)
    else
      match setItem t more with
      | .error e => .error e
      | .ok (item, after) =>
        match afterPlain? '-' (rest more after) with
        | none => readSetItems (item :: items) (rest more after)
        | some [] => .error .openSet
        | some (u :: beyond) =>
          if u = .plain ']' then .ok ((.code '-'.toNat :: item :: items).reverse, beyond)
          else
            match setItem u beyond with
            | .error e => .error e
            | .ok (final, last) =>
              match rangeOf item final with
              | .error e => .error e
              | .ok range => readSetItems (range :: items) (rest more last)
termination_by ts.length
decreasing_by
  · have := length_rest_le more after
    simp
    omega
  · have := length_rest_le more last
    simp
    omega

/-- A set after its opening bracket. -/
def readSet (ts : List Token) : Except ReadError (CharSet × List Token) :=
  match afterPlain? '^' ts with
  | some after => (readSetItems [] after).map fun (items, left) => (.items true items, left)
  | none => (readSetItems [] ts).map fun (items, left) => (.items false items, left)

/-! ## Repetitions -/

/-- The bounds of a repetition. -/
structure Bounds where
  /-- The least number. -/
  min : Nat
  /-- The greatest number, if any. -/
  max : Option Nat

/-- A bound of a repetition, or none if there are no digits. -/
def boundOf (digits : List Char) : Except ReadError (Option Nat) :=
  if digits.isEmpty then .ok none
  else if maxDigits < digits.length then .error (.boundTooLong digits.length)
  else if Expr.endless ≤ numberOf 10 digits then .error .boundTooLarge
  else .ok (some (numberOf 10 digits))

/-- Bounds after an opening brace, or none if the brace stands for itself. -/
def readBounds (ts : List Token) : Except ReadError (Option (Bounds × List Token)) := do
  if (afterPlain? '\x7d' ts).isSome then return none
  let (lo, afterLo) := takePlain isAsciiDigit ts.length ts
  let (hi, afterHi) := match afterPlain? ',' afterLo with
    | some more => takePlain isAsciiDigit more.length more
    | none => (lo, afterLo)
  match afterPlain? '\x7d' afterHi with
  | none => return none
  | some [.dangling] => throw .escape
  | some after =>
    let min := (← boundOf lo).getD 0
    let max ← boundOf hi
    if max.any fun m => decide (m < min) then throw .boundsCrossed
    return some (⟨min, max⟩, after)

/-! ## Frames -/

/-- What a parenthesis opened. -/
inductive GroupKind where
  /-- Nothing: the whole expression. -/
  | root
  /-- A group without further meaning. -/
  | plain
  /-- A group whose text is kept. -/
  | capture (group : Nat)
  /-- A part with flags switched. -/
  | flagged (on off : Flags)
  /-- A condition on what follows. -/
  | ahead (negated : Bool)
  /-- A condition on what precedes; `outer` is the limit of groups around it. -/
  | behind (negated : Bool) (outer : Option Nat)
  /-- A part of which only the first match is tried. -/
  | atomic
  /-- A choice by whether a group has matched. -/
  | ifGroup (group : Nat)
  deriving DecidableEq

/-- What may be done to an item. -/
inductive ItemKind where
  /-- A condition on the position; it cannot be repeated. -/
  | anchor
  /-- A repetition; it cannot be repeated again. -/
  | loop
  /-- Anything else. -/
  | other
  deriving DecidableEq

/-- An open group. -/
structure Frame where
  /-- What it is. -/
  kind : GroupKind
  /-- Whether blanks and comments are skipped in it. -/
  verbose : Bool
  /-- The alternatives before the current one, last first. -/
  done : List Expr := []
  /-- The items of the current alternative, last first. -/
  items : List (ItemKind × Expr) := []

namespace Frame

/-- The current alternative. -/
def current (f : Frame) : Expr :=
  Expr.sequence (f.items.reverse.map Prod.snd)

/-- All alternatives. -/
def alternatives (f : Frame) : List Expr :=
  (f.current :: f.done).reverse

end Frame

/-- What has been read of an expression. -/
structure Reading where
  /-- The innermost open group. -/
  frame : Frame
  /-- The groups around it, innermost first. -/
  outer : List Frame := []
  /-- Flags for the whole expression. -/
  flags : Flags := {}
  /-- Number of groups that have been opened. -/
  groups : Nat := 0
  /-- The names of groups. -/
  names : List (String × Nat) := []
  /-- The groups that have been closed, with the lengths of their texts. -/
  closed : List (Nat × Expr.Width) := []
  /-- Inside a part that looks back: the number of the first group that was opened in it. -/
  behindLimit : Option Nat := none
  /-- Group numbers that were used before it was known whether they exist. -/
  promised : List Nat := []

namespace Reading

/-- The lengths of the texts of a group. -/
def widthOf (r : Reading) (group : Nat) : Expr.Width :=
  (r.closed.lookup group).getD ⟨0, 0⟩

/-- Whether a group has been closed. -/
def isClosed (r : Reading) (group : Nat) : Bool :=
  (r.closed.lookup group).isSome

/-- With an item added to the innermost group. -/
def push (r : Reading) (kind : ItemKind) (e : Expr) : Reading :=
  { r with frame := { r.frame with items := (kind, e) :: r.frame.items } }

/-- With a set of characters added. -/
def pushSet (r : Reading) (set : CharSet) : Reading :=
  r.push .other (.one set)

/-- With a single character added. -/
def pushCode (r : Reading) (n : Nat) : Reading :=
  r.pushSet (.items false [.code n])

/-- With a group opened. -/
def openAs (r : Reading) (kind : GroupKind) (verbose : Bool) : Reading :=
  { r with frame := { kind, verbose }, outer := r.frame :: r.outer }

/-- With a group opened that reads blanks as the one around it does. -/
def openSame (r : Reading) (kind : GroupKind) : Reading :=
  r.openAs kind r.frame.verbose

/-- With the next alternative begun. -/
def nextAlternative (r : Reading) : Except ReadError Reading :=
  match r.frame.kind, r.frame.done with
  | .ifGroup _, _ :: _ => .error .groupForm
  | _, _ =>
    .ok { r with frame := { r.frame with done := r.frame.current :: r.frame.done, items := [] } }

/-- The item of a closed group; `width` are the lengths of its texts. -/
def itemOf (kind : GroupKind) (alternatives : List Expr) (width : Expr.Width) :
    Except ReadError Expr :=
  let body := Expr.choice alternatives
  match kind with
  | .root => .error .parenthesis
  | .plain => .ok body
  | .capture group => .ok (.capture group body)
  | .flagged on off => .ok (.flagged on off body)
  | .ahead negated => .ok (.ahead negated body)
  | .behind negated _ =>
    if width.least = width.greatest then .ok (.behind negated width.least body)
    else .error .lengthVaries
  | .atomic => .ok (.atomic body)
  | .ifGroup group =>
    match alternatives with
    | [yes, no] => .ok (.ifGroup group yes no)
    | _ => .ok (.ifGroup group body .empty)

/-- With the innermost group closed. -/
def close (r : Reading) : Except ReadError Reading :=
  match r.outer with
  | [] => .error (if r.flags.ascii && r.flags.unicode then .flagsConflict else .parenthesis)
  | outer :: others =>
    let alternatives := r.frame.alternatives
    let width := (Expr.choice alternatives).width r.widthOf
    match itemOf r.frame.kind alternatives width with
    | .error e => .error e
    | .ok item =>
      let closed := match r.frame.kind with
        | .capture group => (group, width) :: r.closed
        | _ => r.closed
      let behindLimit := match r.frame.kind with
        | .behind _ limit => limit
        | _ => r.behindLimit
      .ok ({ r with frame := outer, outer := others, closed, behindLimit }.push .other item)

/-- With the last item repeated. -/
def repeatLast (r : Reading) (greed : Greed) (bounds : Bounds) : Except ReadError Reading :=
  match r.frame.items with
  | [] => .error .nothingToRepeat
  | (.anchor, _) :: _ => .error .nothingToRepeat
  | (.loop, _) :: _ => .error .repeatedTwice
  | (.other, e) :: items =>
    .ok { r with frame := { r.frame with
      items := (.loop, .loop greed bounds.min bounds.max e) :: items } }

/-- With the last item repeated, and the sign after the repetition read. -/
def repeatWith (r : Reading) (bounds : Bounds) (ts : List Token) :
    Except ReadError (Reading × List Token) :=
  match ts with
  | .plain '?' :: after => (r.repeatLast .lazy bounds).map fun r => (r, after)
  | .plain '+' :: after => (r.repeatLast .possessive bounds).map fun r => (r, after)
  | _ => (r.repeatLast .greedy bounds).map fun r => (r, ts)

/-! ## References to groups -/

/-- Whether a group may be referred to from inside a part that looks back. -/
def checkBehind (r : Reading) (group : Nat) : Except ReadError Unit :=
  match r.behindLimit with
  | none => .ok ()
  | some limit =>
    if !r.isClosed group then .error .groupOpen
    else if limit ≤ group then .error .groupOpen
    else .ok ()

/-- With a reference to the text of a group added. -/
def pushReference (r : Reading) (group : Nat) : Except ReadError Reading :=
  if r.groups < group then .error .groupName
  else if !r.isClosed group then .error .groupOpen
  else (r.checkBehind group).map fun _ => r.push .other (.backref group)

/-- A name up to `stop`, and the tokens after it. -/
def takeName (stop : Char) (ts : List Token) : Except ReadError (String × List Token) :=
  match upToPlain stop ts with
  | none => .error .groupForm
  | some (inside, after) =>
    let name := Token.text inside
    if isName name then .ok (String.ofList name, after) else .error .groupForm

/-- With a group opened whose text is kept. -/
def openCapture (r : Reading) (name : Option String) : Except ReadError Reading :=
  let group := r.groups + 1
  match name with
  | none => .ok ({ r with groups := group }.openSame (.capture group))
  | some name =>
    if (r.names.lookup name).isSome then .error .groupName
    else
      .ok ({ r with groups := group, names := (name, group) :: r.names }.openSame (.capture group))

/-- With a part opened that looks back. -/
def openBehind (r : Reading) (negated : Bool) : Reading :=
  { r with behindLimit := r.behindLimit <|> some (r.groups + 1) }.openSame
    (.behind negated r.behindLimit)

/-- With a choice opened by a group whose name or number stands before the next `)`. -/
def openIf (r : Reading) (ts : List Token) : Except ReadError (Reading × List Token) := do
  match upToPlain ')' ts with
  | none => throw .groupForm
  | some (inside, after) =>
    let name := Token.text inside
    if isName name then
      match r.names.lookup (String.ofList name) with
      | none => throw .groupName
      | some group =>
        r.checkBehind group
        return (r.openSame (.ifGroup group), after)
    else
      match readInt? name with
      | none => throw .groupForm
      | some n =>
        if n ≤ 0 then throw .groupForm
        r.checkBehind n.toNat
        return ({ r with promised := n.toNat :: r.promised }.openSame (.ifGroup n.toNat), after)

/-! ## Flags -/

/-- Flags that are switched off, up to the colon. -/
def takeOff (on off : Flags) : List Token → Except ReadError (Flags × Flags × List Token)
  | .plain c :: ts =>
    match Flags.ofLetter? c with
    | none => .error .flags
    | some f =>
      if f.ascii || f.unicode then .error .flags
      else
        match ts with
        | .plain ':' :: after =>
          let off := off.union f
          if on.meets off then .error .flags else .ok (on, off, after)
        | _ => takeOff on (off.union f) ts
  | _ => .error .flags

/-- Flags that are switched on: `none` for those switched off if they are for the whole expression. -/
def takeOn (on : Flags) : List Token → Except ReadError (Flags × Option Flags × List Token)
  | .plain c :: ts =>
    match Flags.ofLetter? c with
    | none => .error .flags
    | some f =>
      let on := on.union f
      if (f.ascii || f.unicode) && on.ascii && on.unicode then .error .flags
      else
        match ts with
        | .plain ')' :: after => .ok (on, none, after)
        | .plain ':' :: after => .ok (on, some {}, after)
        | .plain '-' :: after => (takeOff on {} after).map fun (on, off, left) => (on, some off, left)
        | _ => takeOn on ts
  | _ => .error .flags

/-- Flags after `(?`, and what they are for. -/
def takeFlags (ts : List Token) : Except ReadError (Flags × Option Flags × List Token) :=
  match afterPlain? '-' ts with
  | some after => (takeOff {} {} after).map fun (on, off, left) => (on, some off, left)
  | none => takeOn {} ts

/-- With flags applied: to a new group, or to the whole expression if nothing precedes them. -/
def applyFlags (r : Reading) (ts : List Token) : Except ReadError (Reading × List Token) := do
  let (on, off?, after) ← takeFlags ts
  match off? with
  | some off =>
    return (r.openAs (.flagged on off) ((r.frame.verbose || on.verbose) && !off.verbose), after)
  | none =>
    if r.frame.kind = .root && r.frame.done.isEmpty && r.frame.items.isEmpty then
      let flags := r.flags.union on
      return ({ r with flags, frame := { r.frame with verbose := flags.verbose } }, after)
    else throw .flags

/-! ## Groups -/

/-- With a group of a special kind opened, or added if it has no body. -/
def openSpecial (r : Reading) (ts : List Token) : Except ReadError (Reading × List Token) := do
  match ts with
  | .plain 'P' :: .plain '<' :: more =>
    let (name, after) ← takeName '>' more
    return (← r.openCapture (some name), after)
  | .plain 'P' :: .plain '=' :: more =>
    let (name, after) ← takeName ')' more
    match r.names.lookup name with
    | none => throw .groupName
    | some group => return (← r.pushReference group, after)
  | .plain ':' :: more => return (r.openSame .plain, more)
  | .plain '#' :: more =>
    match upToPlain ')' more with
    | some (_, after) => return (r, after)
    | none => throw .groupForm
  | .plain '=' :: more => return (r.openSame (.ahead false), more)
  | .plain '!' :: more => return (r.openSame (.ahead true), more)
  | .plain '<' :: .plain '=' :: more => return (r.openBehind false, more)
  | .plain '<' :: .plain '!' :: more => return (r.openBehind true, more)
  | .plain '(' :: more => r.openIf more
  | .plain '>' :: more => return (r.openSame .atomic, more)
  | _ => r.applyFlags ts

/-- With a group opened after a parenthesis. -/
def openGroup (r : Reading) (ts : List Token) : Except ReadError (Reading × List Token) :=
  match afterPlain? '?' ts with
  | some more => r.openSpecial more
  | none => (r.openCapture none).map fun r => (r, ts)

/-! ## One token -/

/-- With a reference or an octal escape that starts with a digit other than zero. -/
def numberEscape (r : Reading) (c : Char) (ts : List Token) :
    Except ReadError (Reading × List Token) := do
  match takePlain isAsciiDigit 1 ts with
  | ([d], more) =>
    match takePlain isOctalDigit 1 more with
    | ([e], after) =>
      if isOctalDigit c && isOctalDigit d then return (r.pushCode (← octalCode [c, d, e]), after)
      else return (← r.pushReference (numberOf 10 [c, d]), more)
    | _ => return (← r.pushReference (numberOf 10 [c, d]), more)
  | _ => return (← r.pushReference (numberOf 10 [c]), ts)

/-- With an escape outside a set. -/
def escape (r : Reading) (c : Char) (ts : List Token) : Except ReadError (Reading × List Token) :=
  match category? c, anchor? c with
  | some item, _ => .ok (r.pushSet (.items false [item]), ts)
  | none, some a => .ok (r.push .anchor (.anchor a), ts)
  | none, none =>
    if c = '0' then
      let (digits, after) := takePlain isOctalDigit 2 ts
      .ok (r.pushCode (numberOf 8 digits), after)
    else if isAsciiDigit c then r.numberEscape c ts
    else (codeEscape c ts).map fun (n, after) => (r.pushCode n, after)

/-- Blanks that are skipped where blanks are. -/
def isSkipped (c : Char) : Bool :=
  [9, 10, 11, 12, 13, 32].contains c.toNat

/-- With a plain character that is not skipped. -/
def plainToken (r : Reading) (c : Char) (ts : List Token) :
    Except ReadError (Reading × List Token) :=
  match c with
  | '|' => (r.nextAlternative).map fun r => (r, ts)
  | ')' => (r.close).map fun r => (r, ts)
  | '(' => r.openGroup ts
  | '[' => (readSet ts).map fun (set, after) => (r.pushSet set, after)
  | '?' => r.repeatWith ⟨0, some 1⟩ ts
  | '*' => r.repeatWith ⟨0, none⟩ ts
  | '+' => r.repeatWith ⟨1, none⟩ ts
  | '\x7b' => do
    match ← readBounds ts with
    | some (bounds, after) => r.repeatWith bounds after
    | none => return (r.pushCode c.toNat, ts)
  | '.' => .ok (r.pushSet .any, ts)
  | '^' => .ok (r.push .anchor (.anchor .start), ts)
  | '$' => .ok (r.push .anchor (.anchor .finish), ts)
  | _ => .ok (r.pushCode c.toNat, ts)

/-- With one token, and what belongs to it. -/
def step (r : Reading) (t : Token) (ts : List Token) : Except ReadError (Reading × List Token) :=
  match t with
  | .dangling => .error .escape
  | .escaped c => r.escape c ts
  | .plain c =>
    if r.frame.verbose && isSkipped c then .ok (r, ts)
    else if r.frame.verbose && c == '#' then .ok (r, skipPast '\n' ts)
    else r.plainToken c ts

/-- With all tokens. -/
def run (r : Reading) (ts : List Token) : Except ReadError Reading :=
  match ts with
  | [] => .ok r
  | t :: more =>
    match r.step t more with
    | .error e => .error e
    | .ok (r', left) => r'.run (rest more left)
termination_by ts.length
decreasing_by
  have := length_rest_le more left
  simp
  omega

/-- The expression that has been read, if it is complete. -/
def finish (r : Reading) : Except ReadError (Flags × Expr) :=
  if !r.outer.isEmpty then .error .parenthesis
  else if r.flags.ascii && r.flags.unicode then .error .flagsConflict
  else if r.promised.any fun g => decide (r.groups < g) then .error .groupName
  else
    let e := Expr.choice r.frame.alternatives
    .ok (r.flags, e.forget e.references)

end Reading

/-- The expression that a text denotes, with the flags for all of it. -/
def readExpr? (text : List Char) : Except ReadError (Flags × Expr) := do
  let reading ← Reading.run { frame := { kind := .root, verbose := false } } (Token.ofText text)
  reading.finish

end CoverageDiff.Pattern
