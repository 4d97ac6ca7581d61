import RecordSync.Bundled.Regex.Node

set_option autoImplicit false

namespace RecordSync.Regex

inductive Instr where
  | take (set : CharSet)
  | check (a : Anchor)
  | save (slot : Nat)
  | fork (first second : Nat)
  | jump (target : Nat)
  | done
  deriving Repr

def Instr.forkBy (greedy : Bool) (on out : Nat) : Instr :=
  if greedy then .fork on out else .fork out on

abbrev Program := Array Instr

namespace Program

def addCopies (add : Program → Program) : Nat → Program → Program
  | 0, p => p
  | n + 1, p => addCopies add n (add p)

def addOptionals (add : Program → Program) (greedy : Bool) (out : Nat) : Nat → Program → Program
  | 0, p => p
  | n + 1, p => addOptionals add greedy out n (add (p.push (Instr.forkBy greedy (p.size + 1) out)))

def addLoop (add : Program → Program) (greedy : Bool) (p : Program) : Program :=
  let start := p.size
  let p := add p
  p.push (Instr.forkBy greedy start (p.size + 1))

end Program

namespace Node

def length : Node → Nat
  | .empty => 0
  | .take _ | .anchor _ => 1
  | .sequence a b => a.length + b.length
  | .choice a b => a.length + b.length + 2
  | .group _ body => body.length + 2
  | .many body count =>
    match count.most with
    | some most => count.least * body.length + (most - count.least) * (body.length + 1)
    | none => if count.least = 0 then body.length + 2 else count.least * body.length + 1

def addTo : Node → Program → Program
  | .empty, p => p
  | .take set, p => p.push (.take set)
  | .anchor a, p => p.push (.check a)
  | .sequence a b, p => b.addTo (a.addTo p)
  | .choice a b, p =>
    let second := p.size + a.length + 2
    let p := a.addTo (p.push (.fork (p.size + 1) second))
    b.addTo (p.push (.jump (second + b.length)))
  | .group index body, p => (body.addTo (p.push (.save (2 * index)))).push (.save (2 * index + 1))
  | .many body count, p =>
    match count.most with
    | some most =>
      let p := Program.addCopies body.addTo count.least p
      let out := p.size + (most - count.least) * (body.length + 1)
      Program.addOptionals body.addTo count.greedy out (most - count.least) p
    | none =>
      if count.least = 0 then
        let start := p.size
        let p := p.push (Instr.forkBy count.greedy (start + 1) (start + body.length + 2))
        if body.isNullable then Program.addLoop body.addTo count.greedy p
        else (body.addTo p).push (.jump start)
      else
        Program.addLoop body.addTo count.greedy
          (Program.addCopies body.addTo (count.least - 1) p)

end Node

abbrev Slots := Array (Option Nat)

structure Thread where
  pc : Nat
  slots : Slots

structure Wave where
  met : Array Bool
  waiting : List Thread

namespace Wave

def start (size : Nat) : Wave := ⟨Array.replicate size false, []⟩

-- Follows a thread to the instructions that read a character or end the match. The first argument
-- bounds the depth by the number of instructions.
def follow (program : Program) (before after : Option Char) (pos : Nat) :
    Nat → Wave → Thread → Wave
  | 0, wave, _ => wave
  | fuel + 1, wave, thread =>
    if (wave.met[thread.pc]?).getD true then wave
    else
      let wave := { wave with met := wave.met.setIfInBounds thread.pc true }
      let goOn (wave : Wave) (t : Thread) := follow program before after pos fuel wave t
      match program[thread.pc]? with
      | some (.jump target) => goOn wave { thread with pc := target }
      | some (.fork first second) =>
        goOn (goOn wave { thread with pc := first }) { thread with pc := second }
      | some (.check a) =>
        if a.holds before after then goOn wave { thread with pc := thread.pc + 1 } else wave
      | some (.save slot) =>
        goOn wave ⟨thread.pc + 1, thread.slots.setIfInBounds slot (some pos)⟩
      | _ => { wave with waiting := thread :: wave.waiting }

end Wave

def advance (program : Program) (next : Option Char) :
    List Thread → List Thread → Option Slots → List Thread × Option Slots
  | [], going, best => (going.reverse, best)
  | t :: ts, going, best =>
    match program[t.pc]? with
    | some .done => (going.reverse, some t.slots)
    | some (.take set) =>
      if next.any set.holds then advance program next ts ({ t with pc := t.pc + 1 } :: going) best
      else advance program next ts going best
    | _ => advance program next ts going best

-- The search from one position on; the first argument is the number of positions left. A new thread
-- starts at each position until there is a match.
def search (program : Program) (text : Array Char) (slots : Nat) :
    Nat → Nat → List Thread → Option Slots → Option Slots
  | 0, _, _, best => best
  | left + 1, pos, going, best =>
    let before := if pos = 0 then none else text[pos - 1]?
    let after := text[pos]?
    let follow := Wave.follow program before after pos (program.size + 1)
    let wave := going.foldl follow (Wave.start program.size)
    let wave := if best.isNone then follow wave ⟨0, Array.replicate slots none⟩ else wave
    let (going, best) := advance program after wave.waiting.reverse [] best
    if going.isEmpty && best.isSome then best
    else search program text slots left (pos + 1) going best

def searchFrom (program : Program) (slots : Nat) (text : Array Char) (pos : Nat) :
    Option Slots :=
  search program text slots (text.size + 1 - pos) pos [] none

end RecordSync.Regex
