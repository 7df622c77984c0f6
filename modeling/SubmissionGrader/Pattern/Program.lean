import SubmissionGrader.Pattern.Expression

/-!
# Programs

An expression is compiled to a program of steps, each of which names the steps behind it. Of two
steps behind a branching the first one is preferred.
-/

namespace SubmissionGrader.Pattern

open Text

inductive Step where
  | accept
  | read (set : Ranges) (next : Nat)
  | look (place : Look) (next : Nat)
  | branch (first second : Nat)
  deriving Inhabited

/-- The steps of a program, numbered by their places. -/
abbrev Steps := Array Step

def emit (steps : Steps) (step : Step) : Nat × Steps := (steps.size, steps.push step)

/-- A branching between going on with a body and leaving it. -/
def fork (greedy : Bool) (body exit : Nat) : Step :=
  if greedy then .branch body exit else .branch exit body

/-- Compiles something a number of times, each time in front of what is there. -/
def emitTimes (compile : Nat → Steps → Nat × Steps) : Nat → Nat → Steps → Nat × Steps
  | 0, next, steps => (next, steps)
  | n + 1, next, steps =>
    let (entry, steps) := compile next steps
    emitTimes compile n entry steps

/-- Compiles something that may be left out a number of times, always with the same exit. -/
def emitOptional (greedy : Bool) (compile : Nat → Steps → Nat × Steps) (exit : Nat) :
    Nat → Nat → Steps → Nat × Steps
  | 0, next, steps => (next, steps)
  | n + 1, next, steps =>
    let (body, steps) := compile next steps
    let (entry, steps) := emit steps (fork greedy body exit)
    emitOptional greedy compile exit n entry steps

/-- Compiles a loop: a body and a branching behind it, back to the body or on. The entries of the
body and of the branching are given. -/
def emitLoop (greedy : Bool) (compile : Nat → Steps → Nat × Steps) (next : Nat) (steps : Steps) :
    Nat × Nat × Steps :=
  let (loop, steps) := emit steps .accept
  let (body, steps) := compile loop steps
  (body, loop, steps.set! loop (fork greedy body next))

namespace Expression

mutual

/-- Compiles an expression in front of the step `next`; the number of its first step is given. -/
def compile (e : Expression) (next : Nat) (steps : Steps) : Nat × Steps :=
  match e with
  | empty => (next, steps)
  | set characters => emit steps (.read characters next)
  | look place => emit steps (.look place next)
  | capture body => body.compile next steps
  | sequence parts => compileSequence parts next steps
  | choice branches => compileChoice branches next steps
  | repetition least most greedy body =>
    match most with
    | some most =>
      let (entry, steps) := emitOptional greedy body.compile next (most - least) next steps
      emitTimes body.compile least entry steps
    | none =>
      let (entry, loop, steps) := emitLoop greedy body.compile next steps
      if least = 0 then
        if body.nullable then emit steps (fork greedy entry next) else (loop, steps)
      else emitTimes body.compile (least - 1) entry steps

def compileSequence (parts : List Expression) (next : Nat) (steps : Steps) : Nat × Steps :=
  match parts with
  | [] => (next, steps)
  | part :: rest =>
    let (next, steps) := compileSequence rest next steps
    part.compile next steps

def compileChoice (branches : List Expression) (next : Nat) (steps : Steps) : Nat × Steps :=
  match branches with
  | [] => emit steps (.read [] next)
  | [branch] => branch.compile next steps
  | branch :: rest =>
    let (second, steps) := compileChoice rest next steps
    let (first, steps) := branch.compile next steps
    emit steps (.branch first second)

end

end Expression

/-- A compiled expression: its steps and the number of the first one. -/
structure Program where
  steps : Steps
  entry : Nat

def Program.ofExpression (e : Expression) : Program :=
  let (entry, steps) := e.compile 0 #[.accept]
  ⟨steps, entry⟩

end SubmissionGrader.Pattern
