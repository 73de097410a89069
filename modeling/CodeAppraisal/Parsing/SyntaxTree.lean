import CodeAppraisal.Parsing.Source

/-!
Syntax trees.
-/
namespace CodeAppraisal.Parsing

inductive Status where
  | sound
  | error
  | missing
  deriving DecidableEq, Repr, Inhabited

structure NodeInfo where
  kind : String
  named : Bool
  field : Option String
  start : Position
  stop : Position
  status : Status
  damaged : Bool
  deriving DecidableEq, Repr, Inhabited

inductive SyntaxTree where
  | node (info : NodeInfo) (children : List SyntaxTree)
  deriving Repr, Inhabited

namespace SyntaxTree

def info : SyntaxTree → NodeInfo
  | node i _ => i

def children : SyntaxTree → List SyntaxTree
  | node _ cs => cs

def kind (t : SyntaxTree) : String := t.info.kind

def named (t : SyntaxTree) : Bool := t.info.named

def start (t : SyntaxTree) : Position := t.info.start

def stop (t : SyntaxTree) : Position := t.info.stop

def namedChildren (t : SyntaxTree) : List SyntaxTree := t.children.filter named

def child? (t : SyntaxTree) (field : String) : Option SyntaxTree :=
  t.children.find? fun c => c.info.field == some field

def isAsync (t : SyntaxTree) : Bool :=
  match t.children with
  | c :: _ => c.kind == "async"
  | [] => false

theorem sizeOf_lt_of_mem {t c : SyntaxTree} (h : c ∈ t.children) : sizeOf c < sizeOf t := by
  cases t with
  | node i cs =>
    have := List.sizeOf_lt_of_mem h
    simp only [children] at this
    simp only [node.sizeOf_spec]
    omega

theorem sizeOf_append (ts us : List SyntaxTree) :
    sizeOf (ts ++ us) + 1 = sizeOf ts + sizeOf us := by
  induction ts with
  | nil =>
    simp only [List.nil_append, List.nil.sizeOf_spec]
    omega
  | cons t ts ih =>
    simp only [List.cons_append, List.cons.sizeOf_spec]
    omega

theorem sizeOf_children_append_lt (t : SyntaxTree) (rest : List SyntaxTree) :
    sizeOf (t.children ++ rest) < sizeOf (t :: rest) := by
  have := sizeOf_append t.children rest
  cases t
  simp only [children, List.cons.sizeOf_spec, node.sizeOf_spec] at this ⊢
  omega

structure Walk where
  visited : List SyntaxTree
  queue : Std.Queue SyntaxTree

namespace Walk

def start (t : SyntaxTree) : Walk := ⟨[], Std.Queue.empty.enqueue t⟩

def step? (w : Walk) : Option Walk :=
  w.queue.dequeue?.map fun (t, queue) =>
    ⟨t :: w.visited, queue.enqueueAll t.children.reverse⟩

def waiting (w : Walk) : List SyntaxTree := w.queue.dList ++ w.queue.eList.reverse

theorem of_step?_eq_some {w w' : Walk} (h : w.step? = some w') : ∃ t rest,
    w.waiting = t :: rest ∧ w'.visited = t :: w.visited ∧ w'.waiting = rest ++ t.children := by
  obtain ⟨visited, back, front⟩ := w
  simp only [step?, Std.Queue.dequeue?, Std.Queue.enqueueAll] at h
  cases front with
  | cons t front =>
    cases h
    exact ⟨t, front ++ back.reverse, rfl, rfl, by simp [waiting]⟩
  | nil =>
    -- nothing is left in front, so what was put in at the back is turned round
    cases hback : back.reverse with
    | nil => simp [hback] at h
    | cons t rest =>
      rw [hback] at h
      cases h
      exact ⟨t, rest, by simp [waiting, hback], rfl, by simp [waiting]⟩

theorem step?_eq_none_iff {w : Walk} : w.step? = none ↔ w.waiting = [] := by
  obtain ⟨visited, back, front⟩ := w
  simp only [step?, Std.Queue.dequeue?, waiting]
  cases front with
  | cons t front => simp
  | nil => cases hback : back.reverse <;> simp

theorem sizeOf_waiting_lt {w w' : Walk} (h : w.step? = some w') :
    sizeOf w'.waiting < sizeOf w.waiting := by
  obtain ⟨t, rest, hwaiting, -, hwaiting'⟩ := of_step?_eq_some h
  have := sizeOf_append rest t.children
  have := sizeOf_append t.children rest
  have := sizeOf_children_append_lt t rest
  rw [hwaiting, hwaiting']
  omega

def finish (w : Walk) : List SyntaxTree :=
  match _h : w.step? with
  | some w' => w'.finish
  | none => w.visited.reverse
termination_by sizeOf w.waiting
decreasing_by exact sizeOf_waiting_lt ‹_›

end Walk

def walk (t : SyntaxTree) : List SyntaxTree := (Walk.start t).finish

def isBroken (t : SyntaxTree) : Bool := t.info.status ≠ .sound

def fromTop (stack : Array SyntaxTree) : List SyntaxTree := stack.toList.reverse

section Stack

variable {stack : Array SyntaxTree} {t : SyntaxTree}

theorem fromTop_of_back? (h : stack.back? = some t) : fromTop stack = t :: fromTop stack.pop := by
  obtain ⟨below, rfl⟩ := Array.back?_eq_some_iff.mp h
  simp [fromTop]

theorem fromTop_append_reverse (stack : Array SyntaxTree) (ts : List SyntaxTree) :
    fromTop (stack ++ ts.reverse) = ts ++ fromTop stack := by
  simp [fromTop]

theorem sizeOf_pop_lt (h : stack.back? = some t) :
    sizeOf (fromTop stack.pop) < sizeOf (fromTop stack) := by
  rw [fromTop_of_back? h, List.cons.sizeOf_spec]
  omega

theorem sizeOf_children_for_top_lt (h : stack.back? = some t) :
    sizeOf (fromTop (stack.pop ++ t.children.reverse)) < sizeOf (fromTop stack) := by
  rw [fromTop_of_back? h, fromTop_append_reverse]
  exact sizeOf_children_append_lt t _

end Stack

def firstBrokenOn? (stack : Array SyntaxTree) : Option SyntaxTree :=
  match _h : stack.back? with
  | none => none
  | some t =>
    if t.isBroken then some t
    else if !t.info.damaged then firstBrokenOn? stack.pop
    else firstBrokenOn? (stack.pop ++ t.children.reverse)
termination_by sizeOf (fromTop stack)
decreasing_by
  · exact sizeOf_pop_lt ‹_›
  · exact sizeOf_children_for_top_lt ‹_›

def firstBroken? (t : SyntaxTree) : Option SyntaxTree := firstBrokenOn? #[t]

def fault? (t : SyntaxTree) : Option SyntaxTree :=
  if t.info.damaged then some (t.firstBroken?.getD t) else none

end SyntaxTree

end CodeAppraisal.Parsing
