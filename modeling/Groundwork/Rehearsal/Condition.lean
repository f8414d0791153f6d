import Groundwork.Decimal.Digits
import Groundwork.Rehearsal.Tool
import Groundwork.Text.Blank

namespace Groundwork.Rehearsal.Condition

/-! The conditions of `test`. -/

abbrev Verdict := Except String Bool

def integerOf (text : String) : Except String Int :=
  match Decimal.readInteger? (Text.trimLetters text.toList) with
  | some value => .ok value
  | none => .error ("Illegal number: " ++ text)

def compare (holds : Int → Int → Bool) (left right : String) : Verdict := do
  return holds (← integerOf left) (← integerOf right)

def binary? (store : Store) (sign left right : String) : Option Verdict :=
  match sign with
  | "=" | "==" => some (.ok (left = right))
  | "!=" => some (.ok (left ≠ right))
  | "<" => some (.ok (decide (left < right)))
  | ">" => some (.ok (decide (right < left)))
  | "-eq" => some (compare (fun left right => left = right) left right)
  | "-ne" => some (compare (fun left right => left ≠ right) left right)
  | "-lt" => some (compare (fun left right => left < right) left right)
  | "-le" => some (compare (fun left right => left ≤ right) left right)
  | "-gt" => some (compare (fun left right => left > right) left right)
  | "-ge" => some (compare (fun left right => left ≥ right) left right)
  | "-ef" =>
      some (.ok (match store.entryAt true left, store.entryAt true right with
        | .ok (place, _), .ok (other, _) => place == other
        | _, _ => false))
  | _ => none

def isSized : Entry → Bool
  | .file bytes _ => 0 < bytes.size
  | .directory _ => true
  | _ => false

def unary? (store : Store) (sign word : String) : Option Verdict :=
  let entry := store.entry? word
  match sign with
  | "-n" => some (.ok (!word.isEmpty))
  | "-z" => some (.ok word.isEmpty)
  | "-e" => some (.ok entry.isSome)
  | "-f" => some (.ok (entry.any Entry.isFile))
  | "-d" => some (.ok (entry.any Entry.isDirectory))
  | "-s" => some (.ok (entry.any isSized))
  | "-r" | "-w" => some (.ok entry.isSome)
  | "-x" => some (.ok (entry.any fun entry => entry.isDirectory || entry.isExecutable))
  | "-L" | "-h" =>
      some (.ok (match store.entryAt false word with
        | .ok (_, entry) => entry.isLink
        | .error _ => false))
  | "-c" => some (.ok (entry = some .sink))
  | "-b" | "-p" | "-S" | "-t" | "-g" | "-u" | "-k" => some (.ok false)
  | _ => none

/-- Conditions joined by `-o` and `-a`; gives what is left of the words. -/
def either (store : Store) : Nat → List String → Except String (Bool × List String)
  | 0, _ => .error "too many arguments"
  | fuel + 1, words => do
      let (left, rest) ← both fuel words
      match rest with
      | "-o" :: more => do
          let (right, rest) ← either store fuel more
          return (left || right, rest)
      | _ => return (left, rest)
where
  both : Nat → List String → Except String (Bool × List String)
    | 0, _ => .error "too many arguments"
    | fuel + 1, words => do
        let (left, rest) ← single fuel words
        match rest with
        | "-a" :: more => do
            let (right, rest) ← both fuel more
            return (left && right, rest)
        | _ => return (left, rest)
  single : Nat → List String → Except String (Bool × List String)
    | 0, _ => .error "too many arguments"
    | fuel + 1, words =>
        match words with
        | [] => .error "argument expected"
        | [word] => .ok (!word.isEmpty, [])
        | first :: second :: rest =>
            let joined := match rest with
              | third :: more => (binary? store second first third).map fun verdict => (verdict, more)
              | [] => none
            match joined with
            | some (verdict, more) => do return (← verdict, more)
            | none =>
                if first = "!" then do
                  let (value, rest) ← single fuel (second :: rest)
                  return (!value, rest)
                else
                  match unary? store first second with
                  | some verdict => do return (← verdict, rest)
                  | none => .ok (!first.isEmpty, second :: rest)

def evaluate (store : Store) (words : List String) : Verdict :=
  match words with
  | [] => .ok false
  | _ =>
      match either store (3 * words.length + 3) words with
      | .error text => .error text
      | .ok (value, []) => .ok value
      | .ok (_, rest) =>
          .error ((words.take (words.length - rest.length)).getLast?.getD "" ++ ": unexpected operator")

/-- `test`, also in its spelling with brackets. -/
def test : Tool := fun call =>
  let words :=
    if call.name = "[" then
      if call.arguments.getLast? = some "]" then some call.arguments.dropLast else none
    else some call.arguments
  match words with
  | none => call.refuse 2 "missing ]"
  | some words =>
      match evaluate call.store words with
      | .ok true => call.succeed
      | .ok false => call.status 1
      | .error text => call.refuse 2 text

end Groundwork.Rehearsal.Condition
