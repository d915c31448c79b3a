import SchemaServer.Proofs.RoundTrips
import SchemaServer.Proofs.Stores

/-! # The trees that the editor gets

Places and ranges as the editor counts them, in the trees in which they are sent:

* `Json.ofFields_of_increasing`: fields that are given in order stay as they are.
* `Range.ofJson_toJson`: a range is read back from its tree.
* `Span.toJson_toRange`: a span of the analyzer is sent with each of its four numbers one less. -/

namespace SchemaServer

namespace Json

theorem ofFields_of_increasing {fields : List (String × Json)} (keys : List String)
    (named : fields.map Prod.fst = keys) (increasing : keys.Pairwise (· < ·)) :
    ofFields fields = .object fields := by
  have sorted : fields.Pairwise fun a b => a.1 < b.1 := List.pairwise_map.1 (named ▸ increasing)
  exact congrArg (fun m : SortedMap Json => Json.object m.entries)
    (SortedMap.ofList_entries ⟨fields, sorted⟩)

/-- The last field of a key counts. -/
theorem field?_ofFields (key : String) (fields : List (String × Json)) :
    (ofFields fields).field? key = SortedMap.lookup key fields.reverse :=
  SortedMap.get?_ofList key fields

theorem ofJson_word32 (w : UInt32) : word32.ofJson (.ofWord32 w) = .ok w := by
  have fits := toNat_word32_le w
  have checked : (Shape.integer .u32).ofJson (.ofWord32 w) = .ok (w.toNat : Int) := by
    apply ofJson_integer_eq_ok_iff.2
    simp only [ofWord32, nat, IntKind.min, IntKind.max, true_and]
    omega
  rw [word32, Shape.map, Shape.ofJson, checked]
  simp [bind, Except.bind]

end Json

/-! ## Places and ranges -/

namespace Position

theorem neat_toJson (p : Position) (depth : Nat) : Json.Neat (depth + 1) p.toJson := by
  have word : ∀ w : UInt32, Json.Neat depth (.ofWord32 w) := fun w =>
    .nat ((toNat_word32_le w).trans (by decide))
  apply Json.Neat.object ["character", "line"] rfl (by decide)
  simp [word]

theorem ofJson_toJson (p : Position) : shape.ofJson p.toJson = .ok p := by
  apply Json.ofJson_of_written (p.neat_toJson 0) (p.line, p.character, ()) (by decide)
  exact ⟨⟨_, rfl, Json.ofJson_word32 _⟩, ⟨_, rfl, Json.ofJson_word32 _⟩, trivial⟩

end Position

namespace Range

theorem neat_toJson (r : Range) (depth : Nat) : Json.Neat (depth + 2) r.toJson := by
  apply Json.Neat.object ["end", "start"] rfl (by decide)
  simp [Position.neat_toJson]

theorem ofJson_toJson (r : Range) : shape.ofJson r.toJson = .ok r := by
  apply Json.ofJson_of_written (r.neat_toJson 0) (r.start, r.stop, ()) (by decide)
  exact ⟨⟨_, rfl, r.start.ofJson_toJson⟩, ⟨_, rfl, r.stop.ofJson_toJson⟩, trivial⟩

end Range

/-! ## Spans -/

/-- A place of the analyzer with both of its numbers one less. -/
def AnalyzerPosition.loweredTree (p : AnalyzerPosition) : Json :=
  .object [("character", .nat (p.column.toNat - 1)), ("line", .nat (p.line.toNat - 1))]

def Span.loweredTree (s : Span) : Json :=
  .object [("end", s.stop.loweredTree), ("start", s.start.loweredTree)]

theorem Span.toJson_toRange (s : Span) : s.toRange.toJson = s.loweredTree := by
  obtain ⟨startLine, startColumn, stopLine, stopColumn⟩ := s.lowered
  simp [Range.toJson, Position.toJson, loweredTree, AnalyzerPosition.loweredTree, Json.ofWord32,
    ← startLine, ← startColumn, ← stopLine, ← stopColumn]

end SchemaServer
