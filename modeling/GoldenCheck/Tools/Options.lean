import GoldenCheck.Text.Utf8

/-!
# Options of tools

A tool has options of one letter, some of which can be given together, and long ones, whose names
can be cut off as long as it is clear which is meant. Options may stand after operands, unless the
environment says that they may not; `--` ends them. `OptionTable.read` takes arguments apart. What
is wrong with them counts only after the options before it.
-/

namespace GoldenCheck

namespace Tools

/-- What an option takes. -/
inductive Taking where
  /-- Nothing. -/
  | nothing
  /-- An argument. -/
  | argument
  /-- Perhaps an argument. -/
  | perhaps
  deriving DecidableEq, Repr

/-- The options of a tool. An option is known by a key, which is its letter if it has one. -/
structure OptionTable where
  /-- The letters. -/
  letters : List (Char × Taking)
  /-- The long names, with their keys. -/
  names : List (String × Taking × String)

/-- Options by their keys, and operands. -/
structure Given where
  /-- The options in order, with their arguments. -/
  options : List (String × Option Bytes) := []
  /-- The arguments that are no operands. -/
  words : List Bytes := []
  /-- What is wrong after the options. -/
  fault : Option Bytes := none
  /-- The operands. -/
  operands : List Bytes := []

namespace Given

/-- One more option before the others. -/
def option (key : String) (argument : Option Bytes) (g : Given) : Given :=
  { g with options := (key, argument) :: g.options }

/-- More arguments that are no operands, before the others. -/
def after (words : List Bytes) (g : Given) : Given := { g with words := words ++ g.words }

end Given

/-- The sign that begins an option. -/
def dash : UInt8 := 0x2D

namespace OptionTable

/-- What is wrong with an option, in words before it and after it. -/
def wrong (before : String) (name : Bytes) (after : String) : Given :=
  { fault := some (Utf8.encode before ++ name ++ Utf8.encode after) }

/-- The long option that a name stands for. -/
def find (t : OptionTable) (name shown : Bytes) : Except Bytes (String × Taking × String) :=
  let exact := t.names.find? fun o => Utf8.encode o.1 = name
  let candidates := t.names.filter fun o => name.isPrefixOf (Utf8.encode o.1)
  match exact, candidates with
  | some o, _ => .ok o
  | none, [] => .error (Utf8.encode "unrecognized option '--" ++ shown ++ Utf8.encode "'")
  | none, o :: others =>
    let rivals := others.filter fun other => other.2 ≠ o.2
    if rivals.isEmpty then .ok o
    else
      let listed := (o :: rivals).map fun o => " '--" ++ o.1 ++ "'"
      .error (Utf8.encode "option '--" ++ shown
        ++ Utf8.encode ("' is ambiguous; possibilities:" ++ String.join listed))

/-- Take a long option, given without its dashes and with the arguments after it. The arguments that
are left are for `next`. -/
def long (t : OptionTable) (next : List Bytes → Given) (body : Bytes) (rest : List Bytes) : Given :=
  let (name, after) := body.span (· ≠ 0x3D)
  match t.find name body with
  | .error words => { fault := some words }
  | .ok (full, taking, key) =>
    match taking, after, rest with
    | .nothing, [], _ => (next rest).option key none
    | .nothing, _ :: _, _ => wrong "option '--" (Utf8.encode full) "' doesn't allow an argument"
    | _, _ :: value, _ => (next rest).option key (some value)
    | .perhaps, [], _ => (next rest).option key none
    | .argument, [], [] => wrong "option '--" (Utf8.encode full) "' requires an argument"
    | .argument, [], value :: rest => (next rest).option key (some value)

/-- Take the letters of one argument. The arguments that are left are for `next`. -/
def short (t : OptionTable) (next : List Bytes → Given) (rest : List Bytes) : Bytes → Given
  | [] => next rest
  | b :: bs =>
    let c := Char.ofNat b.toNat
    let key := String.ofList [c]
    match t.letters.lookup c, bs, rest with
    | none, _, _ => wrong "invalid option -- '" [b] "'"
    | some .nothing, _, _ => (t.short next rest bs).option key none
    | some .perhaps, [], _ => (next rest).option key none
    | some .argument, [], [] => wrong "option requires an argument -- '" [b] "'"
    | some .argument, [], value :: rest => (next rest).option key (some value)
    | some _, value, _ => (next rest).option key (some value)

/-- Take arguments apart. No option stands after an operand if options come first. -/
def read (t : OptionTable) (optionsFirst : Bool) (args : List Bytes) : Given :=
  go args [] (args.length + 1)
where
  /-- Go on after some operands, the last one first. -/
  go (args operands : List Bytes) : Nat → Given
    | 0 => { operands := operands.reverse }
    | fuel + 1 =>
      let next (rest : List Bytes) : Given :=
        (go rest operands fuel).after (args.take (args.length - rest.length))
      match args with
      | [] => { operands := operands.reverse }
      | arg :: rest =>
        if arg = [dash, dash] then { words := [arg], operands := operands.reverse ++ rest }
        else match arg with
          | 0x2D :: 0x2D :: body => t.long next body rest
          | 0x2D :: b :: bs => t.short next rest (b :: bs)
          | _ =>
            if optionsFirst then { operands := operands.reverse ++ args }
            else go rest (arg :: operands) fuel

end OptionTable

end Tools

end GoldenCheck
