import QueryTuning.Pattern.Basic

/-!
# Searching and replacing

A search tries every place of a text from left to right. A pattern may be
given in consecutive parts, and a hit then tells where each part ended. A scan
cuts a text into hits and the characters between them; the search for the next
hit starts where the last one stopped, with the true preceding character in
view. A stretch without text is no hit of a scan.
-/

set_option autoImplicit false

namespace QueryTuning

structure Hit where
  start : Cursor
  cuts : List Cursor

namespace Hit

def stop (h : Hit) : Cursor := h.cuts.getLast?.getD h.start

def text (h : Hit) : List Char := h.start.upTo h.stop

def partStart (h : Hit) : Nat → Cursor
  | 0 => h.start
  | i + 1 => h.cuts[i]?.getD h.start

def part (h : Hit) (i : Nat) : List Char :=
  (h.partStart i).upTo (h.partStart (i + 1))

end Hit

namespace Pattern

def cuts : List Pattern → Cursor → Option (List Cursor)
  | [], _ => some []
  | p :: ps, c => p.run c fun d => (cuts ps d).map (d :: ·)

def hitAt? (parts : List Pattern) (c : Cursor) : Option Hit := (cuts parts c).map (Hit.mk c)

def find? (parts : List Pattern) (c : Cursor) : Option Hit :=
  c.positions.findSome? (hitAt? parts)

def matchesAt (p : Pattern) (c : Cursor) : Bool := (p.run c some).isSome

inductive Segment where
  | kept (c : Char)
  | hit (h : Hit)

def nextSegment (parts : List Pattern) (c : Cursor) : Option (Segment × Cursor) :=
  match (hitAt? parts c).filter fun h => h.stop.rest.length < c.rest.length with
  | some h => some (.hit h, h.stop)
  | none =>
    match c.rest with
    | [] => none
    | x :: xs => some (.kept x, ⟨some x, xs⟩)

theorem nextSegment_shorter {parts : List Pattern} {c d : Cursor} {s : Segment}
    (found : nextSegment parts c = some (s, d)) : d.rest.length < c.rest.length := by
  unfold nextSegment at found
  split at found
  · rename_i h heq
    have := Option.filter_eq_some_iff.1 heq
    simp only [Option.some.injEq, Prod.mk.injEq] at found
    rw [← found.2]
    simpa using this.2
  · split at found
    · simp at found
    · rename_i x xs heq
      simp only [Option.some.injEq, Prod.mk.injEq] at found
      rw [← found.2, heq]
      simp

def segments (parts : List Pattern) (c : Cursor) : List Segment :=
  match found : nextSegment parts c with
  | none => []
  | some (s, d) =>
    have := nextSegment_shorter found
    s :: segments parts d
termination_by c.rest.length

def Segment.hit? : Segment → Option Hit
  | .kept _ => none
  | .hit h => some h

def findAll (parts : List Pattern) (text : List Char) : List Hit :=
  (segments parts (Cursor.ofText text)).filterMap Segment.hit?

def Segment.replaced (replacement : List Char) : Segment → List Char
  | .kept c => [c]
  | .hit _ => replacement

def replaceAll (p : Pattern) (replacement text : List Char) : List Char :=
  (segments [p] (Cursor.ofText text)).flatMap (Segment.replaced replacement)

end Pattern

end QueryTuning
