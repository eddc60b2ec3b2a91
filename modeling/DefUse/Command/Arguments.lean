import DefUse.File.Path

/-!
# Command/Arguments — options and words on a command line

A command takes options and words.  Each argument is first classified by itself: it is an option if
it starts with a dash and names one, in full or by a beginning that no other option shares.  After
`--` everything is a word.  Then the arguments are gone through in order: options take the words
that follow them as far as they want any, and the first words that no option takes are those of the
command.  Words and options that nothing takes are left over.
-/

namespace DefUse.Arguments

/-- How many words an option takes. -/
inductive Takes where
  | nothing
  | one
  | any
  deriving DecidableEq, Repr

/-- How many words a command takes.  After the name of a command nothing is an option. -/
inductive Wants where
  | one
  | several
  | command
  deriving DecidableEq, Repr

/-- What ends the reading of a command line before there is anything to run. -/
inductive Stop where
  | help (text : String)
  | version
  | misuse
  deriving DecidableEq, Repr

/-- **An option**: its long name, the letter that stands for it if there is one, how many words it
takes, and whether it stops the reading. -/
structure Switch where
  long : String
  letter : Option Char
  takes : Takes
  stop : Option Stop
  deriving DecidableEq, Repr

/-- **What a command takes.** -/
structure Grammar where
  switches : List Switch
  wants : Wants
  deriving DecidableEq, Repr

/-- A value that is attached to an option, with an equals sign or without. -/
structure Attached where
  equals : Bool
  text : List Char
  deriving DecidableEq, Repr

/-- **What an argument is** by itself. -/
inductive Kind where
  | word
  | divider
  | switch (s : Switch) (byLetter : Bool) (attached : Option Attached)
  | unknown
  deriving DecidableEq, Repr

/-! ## Classifying -/

/-- The option a letter stands for. -/
def Grammar.byLetter? (g : Grammar) (c : Char) : Option Switch :=
  g.switches.find? (·.letter = some c)

/-- The options whose long name starts in a way. -/
def Grammar.startingWith (g : Grammar) (start : List Char) : List Switch :=
  g.switches.filter fun s => start.isPrefixOf s.long.toList

/-- Whether a text is a number below zero. -/
def isNegativeNumber : List Char → Bool
  | '-' :: rest =>
    match rest.dropWhile Char.isDigit with
    | [] => !rest.isEmpty
    | '.' :: places => !places.isEmpty && places.all Char.isDigit
    | _ => false
  | _ => false

/-- What an argument is that starts like an option and names none. -/
def unnamed (cs : List Char) : Kind :=
  if isNegativeNumber cs || cs.contains ' ' then .word else .unknown

/-- Split an argument at its first equals sign. -/
def splitEquals (cs : List Char) : List Char × Option Attached :=
  match cs.dropWhile (· ≠ '=') with
  | _ :: value => (cs.takeWhile (· ≠ '='), some ⟨true, value⟩)
  | [] => (cs, none)

/-- What an argument is that starts with two dashes, from after them. -/
def classifyLong (g : Grammar) (cs : List Char) : Except Stop Kind :=
  let (name, attached) := splitEquals cs
  match g.switches.find? (·.long.toList = name) with
  | some s => .ok (.switch s false attached)
  | none =>
    match g.startingWith name with
    | [s] => .ok (.switch s false attached)
    | [] => .ok (unnamed ('-' :: '-' :: cs))
    | _ => .error .misuse

/-- What an argument is that starts with one dash, from after it. -/
def classifyLetters (g : Grammar) (c : Char) (rest : List Char) : Kind :=
  match g.byLetter? c with
  | none => unnamed ('-' :: c :: rest)
  | some s =>
    match rest with
    | [] => .switch s true none
    | '=' :: value => .switch s true (some ⟨true, value⟩)
    | _ => .switch s true (some ⟨false, rest⟩)

/-- **What an argument is** by itself, before any divider. -/
def classify (g : Grammar) (arg : String) : Except Stop Kind :=
  match arg.toList with
  | ['-', '-'] => .ok .divider
  | '-' :: '-' :: rest => classifyLong g rest
  | '-' :: c :: rest => .ok (classifyLetters g c rest)
  | _ => .ok .word

/-- What the arguments are. -/
def classifyAll (g : Grammar) : List String → Except Stop (List (String × Kind))
  | [] => .ok []
  | arg :: rest => do
    match ← classify g arg with
    | .divider => return (arg, .divider) :: rest.map fun a => (a, .word)
    | kind => return (arg, kind) :: (← classifyAll g rest)

/-! ## Taking words -/

/-- Whether an argument is a word. -/
def isWord (a : String × Kind) : Bool := a.2 = .word

/-- Whether an argument is a word or the divider. -/
def isPlain (a : String × Kind) : Bool := a.2 = .word || a.2 = .divider

/-- How many of the next arguments go to the command; none if it cannot start here. -/
def Wants.count (w : Wants) (args : List (String × Kind)) : Nat :=
  let dividers := (args.takeWhile (·.2 = .divider)).length
  let rest := args.drop dividers
  match rest with
  | [] => 0
  | a :: after =>
    if isWord a then
      match w with
      | .one => dividers + 1 + (after.takeWhile (·.2 = .divider)).length
      | .several => dividers + (rest.takeWhile isPlain).length
      | .command => args.length
    else 0

/-- The words of a command, without the first divider among them. -/
def Wants.wordsOf (w : Wants) (args : List (String × Kind)) : List String :=
  match w with
  | .command => args.map (·.1)
  | _ => (args.map (·.1)).erase "--"

/-- An option and the words it was given. -/
abbrev Occurrence := Switch × List String

/-- What an option by itself takes of the next arguments. -/
def Switch.take (s : Switch) (next : List (String × Kind)) : Except Stop (List String) :=
  match s.takes with
  | .nothing => .ok []
  | .any => .ok ((next.takeWhile isWord).map (·.1))
  | .one =>
    match next with
    | a :: _ => if isWord a then .ok [a.1] else .error .misuse
    | [] => .error .misuse

/-- **What an argument that is an option comes to**: the options it names with their words, how many
of the next arguments they take, and the letters left over.  Letters that take no words may be
written together after one dash.  The number bounds the letters. -/
def occurrences (g : Grammar) (next : List (String × Kind)) (s : Switch) (byLetter : Bool) :
    Nat → Option Attached → Except Stop (List Occurrence × Nat × List String)
  | _, none => do
    let taken ← s.take next
    return ([(s, taken)], taken.length, [])
  | 0, some _ => .error .misuse
  | fuel + 1, some a =>
    if s.takes ≠ .nothing then .ok ([(s, [String.ofList a.text])], 0, [])
    else
      match a.text with
      | [] => .error .misuse
      | c :: rest =>
        if !byLetter || a.equals || c = '-' then .error .misuse
        else
          match g.byLetter? c with
          | none => .ok ([(s, [])], 0, [String.ofList ('-' :: c :: rest)])
          | some t => do
            let attached : Option Attached := match rest with
              | [] => none
              | '=' :: value => some ⟨true, value⟩
              | _ => some ⟨false, rest⟩
            let (more, count, left) ← occurrences g next t true fuel attached
            return ((s, []) :: more, count, left)

/-! ## Going through the arguments -/

/-- **What was found on a command line.** -/
structure Found where
  switches : List Occurrence
  /-- The words of the command, if there were any. -/
  words : Option (List String)
  leftOver : List String
  deriving DecidableEq, Repr

/-- The first of some options that stops the reading. -/
def firstStop? (found : List Occurrence) : Option Stop := found.findSome? (·.1.stop)

/-- Go through classified arguments.  The number bounds how many are left. -/
def collect (g : Grammar) : Nat → Found → List (String × Kind) → Except Stop Found
  | 0, found, _ => .ok found
  | _, found, [] => .ok found
  | fuel + 1, found, (arg, kind) :: rest =>
    match kind with
    | .switch s byLetter attached => do
      let (named, count, left) ← occurrences g rest s byLetter arg.length attached
      match firstStop? named with
      | some stop => throw stop
      | none =>
        let found := { found with
          switches := found.switches ++ named, leftOver := found.leftOver ++ left }
        collect g fuel found (rest.drop count)
    | .unknown => collect g fuel { found with leftOver := found.leftOver ++ [arg] } rest
    | _ =>
      let args := (arg, kind) :: rest
      let count := if found.words.isNone then g.wants.count args else 0
      if count = 0 then
        let skipped := (args.takeWhile isPlain).map (·.1)
        let found := { found with leftOver := found.leftOver ++ skipped }
        collect g fuel found (args.dropWhile isPlain)
      else
        let found := { found with words := some (g.wants.wordsOf (args.take count)) }
        collect g fuel found (args.drop count)

/-- **Read the arguments of a command.** -/
def read (g : Grammar) (args : List String) : Except Stop Found := do
  let kinds ← classifyAll g args
  collect g (kinds.length + 1) ⟨[], none, []⟩ kinds

namespace Found

/-- The words given to an option the last time it was named. -/
def wordsOf? (f : Found) (long : String) : Option (List String) :=
  (f.switches.reverse.find? (·.1.long = long)).map (·.2)

/-- Whether an option was named. -/
def has (f : Found) (long : String) : Bool := (f.wordsOf? long).isSome

/-- The path given to an option. -/
def pathOf? (f : Found) (long : String) : Option Path :=
  (f.wordsOf? long).bind fun ws => ws.head?.map Path.ofText

end Found

end DefUse.Arguments
