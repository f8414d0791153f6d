import Groundwork.Pattern.Basic

namespace Groundwork.Pattern

/-! Finding the first match of a pattern and what its first group holds.

A pattern becomes a program.  All ways through the program are followed side by side, one letter at a
time, the preferred ones first; of two ways that meet only the preferred one goes on.
-/

inductive Instruction where
  | take (set : CharSet)
  | require (place : Place)
  /-- Goes on at two addresses, the first one preferred. -/
  | split (first second : Nat)
  | jump (target : Nat)
  | open
  | close
  | accept
  deriving Repr

/-- More instructions than this are refused. -/
def sizeLimit : Nat := 300000

/-- How many instructions a pattern takes. -/
def size : Pattern → Nat
  | .empty => 0
  | .oneOf _ | .standing _ => 1
  | .group index inner => if index = 1 then inner.size + 2 else inner.size
  | .sequence first second => first.size + second.size
  | .choice first second => first.size + second.size + 2
  | .repetition inner least most _ =>
      match most with
      | some most => least * inner.size + (most - least) * (inner.size + 1)
      | none => if least = 0 then inner.size + 2 else least * inner.size + 1

def branch (greedy : Bool) (inside outside : Nat) : Instruction :=
  if greedy then .split inside outside else .split outside inside

/-- `count` copies of a code that depends on its address. -/
def copies (code : Nat → List Instruction) (length : Nat) : Nat → Nat → List Instruction
  | 0, _ => []
  | count + 1, address => code address ++ copies code length count (address + length)

/-- `count` copies, each of which may be left out together with those behind it. -/
def optional (code : Nat → List Instruction) (length : Nat) (greedy : Bool) (finish : Nat) :
    Nat → Nat → List Instruction
  | 0, _ => []
  | count + 1, address =>
      branch greedy (address + 1) finish :: code (address + 1) ++
        optional code length greedy finish count (address + 1 + length)

/-- The code of a pattern at an address; it ends by going on behind itself. -/
def code (pattern : Pattern) (address : Nat) : List Instruction :=
  match pattern with
  | .empty => []
  | .oneOf set => [.take set]
  | .standing place => [.require place]
  | .group index inner =>
      if index = 1 then .open :: inner.code (address + 1) ++ [.close]
      else inner.code address
  | .sequence first second =>
      let front := first.code address
      front ++ second.code (address + front.length)
  | .choice first second =>
      let front := first.code (address + 1)
      let middle := address + 1 + front.length
      let back := second.code (middle + 1)
      .split (address + 1) (middle + 1) :: front ++ .jump (middle + 1 + back.length) :: back
  | .repetition inner least most greedy =>
      let length := inner.size
      match most with
      | some most =>
          let start := address + least * length
          copies inner.code length least address ++
            optional inner.code length greedy (start + (most - least) * (length + 1)) (most - least) start
      | none =>
          if least = 0 then
            if inner.leastLength = 0 then
              branch greedy (address + 1) (address + length + 2) :: inner.code (address + 1) ++
                [branch greedy (address + 1) (address + length + 2)]
            else
              branch greedy (address + 1) (address + length + 2) :: inner.code (address + 1) ++
                [.jump address]
          else
            let last := address + (least - 1) * length
            copies inner.code length least address ++
              [branch greedy last (last + length + 1)]

def program (pattern : Pattern) : Array Instruction :=
  (pattern.code 0 ++ [Instruction.accept]).toArray

def instructionAt? (program : Array Instruction) (address : Nat) : Option Instruction :=
  program[address]?

/-- What the first group holds: where it opened and where it closed. -/
structure Capture where
  opened : Option Nat
  closed : Option (Nat × Nat)
  deriving DecidableEq, Repr

def Capture.none : Capture := ⟨.none, .none⟩

structure Thread where
  address : Nat
  capture : Capture

/-- A position in the text: how many letters lie before it, and the letters around it. -/
structure Position where
  index : Nat
  before : Option Char
  after : Option Char

/-- The threads that wait for a letter or accept, reached without taking one; preferred ones first. -/
structure Waiting where
  visited : Array Bool
  threads : List Thread

def advance (program : Array Instruction) (position : Position) :
    Nat → List Thread → Waiting → Waiting
  | 0, _, waiting => waiting
  | _ + 1, [], waiting => waiting
  | fuel + 1, thread :: stack, waiting =>
      if (waiting.visited[thread.address]?).getD true then advance program position fuel stack waiting
      else
        let visited := waiting.visited.set! thread.address true
        let next (threads : List Thread) :=
          advance program position fuel (threads ++ stack) ⟨visited, waiting.threads⟩
        let wait := advance program position fuel stack ⟨visited, thread :: waiting.threads⟩
        match instructionAt? program thread.address with
        | none => next []
        | some (.take _) => wait
        | some .accept => wait
        | some (.require place) =>
            if place.holds position.before position.after then
              next [⟨thread.address + 1, thread.capture⟩]
            else next []
        | some (.split first second) => next [⟨first, thread.capture⟩, ⟨second, thread.capture⟩]
        | some (.jump target) => next [⟨target, thread.capture⟩]
        | some .open => next [⟨thread.address + 1, ⟨some position.index, thread.capture.closed⟩⟩]
        | some .close =>
            next [⟨thread.address + 1,
              ⟨thread.capture.opened, thread.capture.opened.map fun start => (start, position.index)⟩⟩]

/-- Follows threads from most preferred to least. -/
def settle (program : Array Instruction) (position : Position) (threads : List Thread) : List Thread :=
  let start : Waiting := ⟨Array.replicate program.size false, []⟩
  (advance program position (3 * program.size + threads.length + 1) threads start).threads.reverse

/-- The threads before the first that accepts, and that one's capture. -/
def accepted (program : Array Instruction) : List Thread → List Thread × Option Capture
  | [] => ([], none)
  | thread :: rest =>
      match instructionAt? program thread.address with
      | some .accept => ([], some thread.capture)
      | _ =>
          let (kept, found) := accepted program rest
          (thread :: kept, found)

def taking (program : Array Instruction) (letter : Char) (threads : List Thread) : List Thread :=
  threads.filterMap fun thread =>
    match instructionAt? program thread.address with
    | some (.take set) => if set.holds letter then some ⟨thread.address + 1, thread.capture⟩ else none
    | _ => none

/-- Runs over the rest of a text.  Until something has matched a new try starts at each position,
with less preference than those under way. -/
def runFrom (program : Array Instruction) (found : Option Capture) (threads : List Thread)
    (index : Nat) (before : Option Char) : List Char → Option Capture
  | [] =>
      let fresh := if found.isNone then [Thread.mk 0 .none] else []
      let settled := settle program ⟨index, before, none⟩ (threads ++ fresh)
      ((accepted program settled).2).or found
  | letter :: rest =>
      let fresh := if found.isNone then [Thread.mk 0 .none] else []
      let settled := settle program ⟨index, before, some letter⟩ (threads ++ fresh)
      let (kept, latest) := accepted program settled
      let found := latest.or found
      let threads := taking program letter kept
      if threads.isEmpty && found.isSome then found
      else runFrom program found threads (index + 1) (some letter) rest

end Groundwork.Pattern

namespace Groundwork

/-- A pattern made ready for matching. -/
structure Matcher where
  program : Array Pattern.Instruction

namespace Matcher

/-- Nothing when the text is no pattern, or when its program would be too large. -/
def ofPattern (pattern : Pattern) : Option Matcher :=
  if pattern.size ≤ Pattern.sizeLimit then some ⟨pattern.program⟩ else none

/-- What the first group of the first match holds, if there is a match and the group took part. -/
def firstGroup? (matcher : Matcher) (text : String) : Option String :=
  let letters := text.toList
  match (Pattern.runFrom matcher.program none [] 0 none letters).bind Pattern.Capture.closed with
  | some (start, finish) => some (String.ofList ((letters.drop start).take (finish - start)))
  | none => none

end Matcher

end Groundwork
