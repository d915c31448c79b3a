import SchemaServer.Proofs.Answers
import SchemaServer.Proofs.RoundTrips

/-! # Counting from one and counting from zero

Going down subtracts one from words that the types keep from being zero, and going up stops at the
greatest word.  Both are followed on natural numbers, where nothing wraps around: `Position.raised`
gives the coordinates on the way up, `AnalyzerPosition.lowered` those on the way down.

* Going down and up again changes nothing (`toAnalyzer_toProtocol`); going up and down again changes
  just the places at the greatest word (`toProtocol_toAnalyzer_iff`).
* Going down keeps the order of any two places (`compares_toProtocol`). -/

namespace SchemaServer

/-! ## Coordinates as numbers -/

theorem Position.eq_iff_toNat {a b : Position} :
    a = b ↔ a.line.toNat = b.line.toNat ∧ a.character.toNat = b.character.toNat := by
  obtain ⟨line, character⟩ := a
  obtain ⟨line', character'⟩ := b
  simp only [mk.injEq, UInt32.toNat_inj]

namespace AnalyzerPosition

theorem eq_iff_toNat {p q : AnalyzerPosition} :
    p = q ↔ p.line.toNat = q.line.toNat ∧ p.column.toNat = q.column.toNat := by
  obtain ⟨line, column, _, _⟩ := p
  obtain ⟨line', column', _, _⟩ := q
  simp only [mk.injEq, UInt32.toNat_inj]

/-- The coordinates are these numbers, which are words and count from one. -/
structure At (p : AnalyzerPosition) (line column : Int) : Prop where
  line_bounds : 1 ≤ line ∧ line ≤ 4294967295
  column_bounds : 1 ≤ column ∧ column ≤ 4294967295
  line_eq : (p.line.toNat : Int) = line
  column_eq : (p.column.toNat : Int) = column

theorem at_iff {p : AnalyzerPosition} {line column : Int} :
    p.At line column ↔ line = p.line.toNat ∧ column = p.column.toNat := by
  constructor
  · rintro ⟨-, -, rfl, rfl⟩
    exact ⟨rfl, rfl⟩
  · rintro ⟨rfl, rfl⟩
    obtain ⟨⟨_, _⟩, _, _⟩ := p.counts
    exact ⟨by omega, by omega, rfl, rfl⟩

/-! ## How places are made -/

theorem ofWords?_eq_some_iff {line column : UInt32} {p : AnalyzerPosition} :
    ofWords? line column = some p ↔ p.At line.toNat column.toNat := by
  rw [at_iff, ofWords?]
  split
  next nonzero =>
    rw [Option.some.injEq, eq_iff_toNat]
    dsimp only
    omega
  next zero =>
    simp only [reduceCtorEq, Int.natCast_inj, UInt32.toNat_inj, false_iff]
    rintro ⟨rfl, rfl⟩
    exact zero ⟨p.line_ne_zero, p.column_ne_zero⟩

theorem ofJson_pair_eq_ok_iff {line column : Int} {p : AnalyzerPosition} :
    shape.ofJson (.array [.int line, .int column]) = .ok p ↔ p.At line column := by
  rw [at_iff, ofJson_eq_ok_iff]
  simp [toJson, Json.ofWord32, Json.nat, Json.int]

end AnalyzerPosition

/-- Going up never comes to zero. -/
theorem Position.at_toAnalyzer (q : Position) :
    q.toAnalyzer.At (min (q.line.toNat + 1) 4294967295) (min (q.character.toNat + 1) 4294967295) := by
  obtain ⟨line, column⟩ := q.raised
  rw [AnalyzerPosition.at_iff]
  omega

/-! ## There and back -/

/-- Both coordinates have a next word. -/
def Position.HasNext (q : Position) : Prop :=
  q.line.toNat < 4294967295 ∧ q.character.toNat < 4294967295

theorem AnalyzerPosition.toAnalyzer_toProtocol (p : AnalyzerPosition) : p.toProtocol.toAnalyzer = p := by
  obtain ⟨line, column⟩ := p.toProtocol.raised
  obtain ⟨line', column'⟩ := p.lowered
  obtain ⟨⟨_, _⟩, _, _⟩ := p.counts
  rw [eq_iff_toNat]
  omega

theorem Position.toProtocol_toAnalyzer_iff {q : Position} :
    q.toAnalyzer.toProtocol = q ↔ q.HasNext := by
  obtain ⟨line, column⟩ := q.raised
  obtain ⟨line', column'⟩ := q.toAnalyzer.lowered
  -- A sum that is cut at the greatest word is one short on the way back.
  rw [eq_iff_toNat, HasNext]
  omega

/-! ## Order -/

/-- Earlier lines come first, then earlier columns. -/
def AnalyzerPosition.Before (p q : AnalyzerPosition) : Prop :=
  p.line < q.line ∨ p.line = q.line ∧ p.column < q.column

instance (p q : AnalyzerPosition) : Decidable (p.Before q) :=
  inferInstanceAs (Decidable (_ ∨ _))

/-- This is how two places of the analyzer compare. -/
structure AnalyzerPosition.Compares (p q : AnalyzerPosition) (order : Ordering) : Prop where
  lt_iff : order = .lt ↔ p.Before q
  eq_iff : order = .eq ↔ p = q
  gt_iff : order = .gt ↔ q.Before p

namespace Position

variable {a b : Position}

theorem order_eq_then (a b : Position) :
    a.order b = (compare a.line b.line).then (compare a.character b.character) := by
  rw [order]
  cases compare a.line b.line <;> rfl

theorem order_eq_lt_iff :
    a.order b = .lt ↔ a.line < b.line ∨ a.line = b.line ∧ a.character < b.character := by
  rw [order_eq_then, Ordering.then_eq_lt, Std.compare_eq_lt, Std.compare_eq_iff_eq, Std.compare_eq_lt]

theorem order_eq_eq_iff : a.order b = .eq ↔ a = b := by
  rw [order_eq_then, Ordering.then_eq_eq, Std.compare_eq_iff_eq, Std.compare_eq_iff_eq, eq_iff_toNat,
    UInt32.toNat_inj, UInt32.toNat_inj]

theorem order_eq_gt_iff :
    a.order b = .gt ↔ b.line < a.line ∨ b.line = a.line ∧ b.character < a.character := by
  rw [order_eq_then, Ordering.then_eq_gt, Std.compare_eq_gt, Std.compare_eq_iff_eq, Std.compare_eq_gt,
    eq_comm]

end Position

namespace AnalyzerPosition

theorem before_iff_toProtocol {p q : AnalyzerPosition} :
    p.Before q ↔ p.toProtocol.line < q.toProtocol.line ∨
      p.toProtocol.line = q.toProtocol.line ∧ p.toProtocol.character < q.toProtocol.character := by
  obtain ⟨line, column⟩ := p.lowered
  obtain ⟨line', column'⟩ := q.lowered
  -- Words that are one less compare as before only because none of them was zero.
  simp only [Before, UInt32.lt_iff_toNat_lt, ← UInt32.toNat_inj]
  omega

theorem toProtocol_inj {p q : AnalyzerPosition} : p.toProtocol = q.toProtocol ↔ p = q := by
  constructor
  · intro same
    rw [← p.toAnalyzer_toProtocol, same, q.toAnalyzer_toProtocol]
  · rintro rfl
    rfl

theorem compares_toProtocol (p q : AnalyzerPosition) :
    p.Compares q (p.toProtocol.order q.toProtocol) where
  lt_iff := Position.order_eq_lt_iff.trans before_iff_toProtocol.symm
  eq_iff := Position.order_eq_eq_iff.trans toProtocol_inj
  gt_iff := Position.order_eq_gt_iff.trans before_iff_toProtocol.symm

end AnalyzerPosition

theorem Position.compares_toAnalyzer {q r : Position} (next : q.HasNext) (next' : r.HasNext) :
    q.toAnalyzer.Compares r.toAnalyzer (q.order r) := by
  have compares := q.toAnalyzer.compares_toProtocol r.toAnalyzer
  rwa [toProtocol_toAnalyzer_iff.2 next, toProtocol_toAnalyzer_iff.2 next'] at compares

theorem Span.isEmpty_toRange_iff (s : Span) : s.toRange.isEmpty = true ↔ s.start = s.stop := by
  rw [Range.isEmpty, beq_iff_eq]
  exact AnalyzerPosition.toProtocol_inj

/-- The two ways to count describe the same places in the same order, up to the greatest word.  However
    a place is made, it has the coordinates that were asked for and counts from one, so that counting
    from zero never wraps around.  Counting from one again gives the place back, and the other way round
    this holds exactly of the places that have a next one in both directions.  The ends of a range
    stand as the ends of its span do, and it is empty exactly if these coincide. -/
theorem coordinates_correspond :
    (∀ (line column : UInt32) (p : AnalyzerPosition),
      AnalyzerPosition.ofWords? line column = some p ↔ p.At line.toNat column.toNat) ∧
    (∀ (line column : Int) (p : AnalyzerPosition),
      (AnalyzerPosition.ofInts? line column = some p ↔ p.At line column) ∧
      (AnalyzerPosition.shape.ofJson (.array [.int line, .int column]) = .ok p ↔
        p.At line column)) ∧
    (∀ q : Position, q.toAnalyzer.At (min (q.line.toNat + 1) 4294967295)
      (min (q.character.toNat + 1) 4294967295)) ∧
    (∀ (p : AnalyzerPosition) (line column : Int), p.At line column →
      p.toProtocol.line.toNat = line - 1 ∧ p.toProtocol.character.toNat = column - 1) ∧
    (∀ p : AnalyzerPosition, p.toProtocol.toAnalyzer = p) ∧
    (∀ q : Position, q.toAnalyzer.toProtocol = q ↔ q.HasNext) ∧
    (∀ p q : AnalyzerPosition, p.Compares q (p.toProtocol.order q.toProtocol)) ∧
    (∀ q r : Position, q.HasNext → r.HasNext → q.toAnalyzer.Compares r.toAnalyzer (q.order r)) ∧
    ∀ s : Span, s.start.Compares s.stop (s.toRange.start.order s.toRange.stop) ∧
      (s.toRange.isEmpty = true ↔ s.start = s.stop) := by
  refine ⟨fun _ _ _ => AnalyzerPosition.ofWords?_eq_some_iff, ?_, Position.at_toAnalyzer, ?_,
    AnalyzerPosition.toAnalyzer_toProtocol, fun _ => Position.toProtocol_toAnalyzer_iff,
    AnalyzerPosition.compares_toProtocol, fun _ _ => Position.compares_toAnalyzer, ?_⟩
  · intro line column p
    rw [AnalyzerPosition.ofInts?_eq_some_iff, AnalyzerPosition.at_iff,
      AnalyzerPosition.ofJson_pair_eq_ok_iff, AnalyzerPosition.at_iff]
    exact ⟨Iff.rfl, Iff.rfl⟩
  · intro p line column stands
    obtain ⟨rfl, rfl⟩ := AnalyzerPosition.at_iff.1 stands
    obtain ⟨line, column⟩ := p.lowered
    omega
  · intro s
    exact ⟨s.start.compares_toProtocol s.stop, s.isEmpty_toRange_iff⟩

/-- A place in the last line, and one before it at the end of the longest line that can be counted. -/
theorem coordinates_correspond_lastLine :
    ∃ p : AnalyzerPosition, AnalyzerPosition.ofInts? 4294967295 1 = some p ∧ p.At 4294967295 1 ∧
      p.toProtocol.line.toNat = (4294967295 - 1 : Int) ∧
      p.toProtocol.character.toNat = (1 - 1 : Int) ∧
      Position.HasNext ⟨7, 4294967294⟩ ∧ Position.HasNext ⟨4294967294, 0⟩ ∧
      (Position.toAnalyzer ⟨7, 4294967294⟩).Before p := by
  obtain ⟨-, integers, -, lowered, -, -, -, ordered, -⟩ := coordinates_correspond
  have stands : (Position.toAnalyzer ⟨4294967294, 0⟩).At 4294967295 1 :=
    ⟨by decide, by decide, rfl, rfl⟩
  have early : Position.HasNext ⟨7, 4294967294⟩ := ⟨by decide, by decide⟩
  have late : Position.HasNext ⟨4294967294, 0⟩ := ⟨by decide, by decide⟩
  obtain ⟨line, column⟩ := lowered _ _ _ stands
  exact ⟨_, (integers _ _ _).1.2 stands, stands, line, column, early, late,
    (ordered _ _ early late).lt_iff.1 rfl⟩

-- At the greatest word going up may turn the order of two places around.
example :
    Position.order ⟨4294967294, 5⟩ ⟨4294967295, 0⟩ = .lt ∧
      (Position.toAnalyzer ⟨4294967295, 0⟩).Before (Position.toAnalyzer ⟨4294967294, 5⟩) := by
  decide

end SchemaServer
