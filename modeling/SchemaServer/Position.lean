import SchemaServer.Json.Words

/-! # Positions

Two coordinate systems for places in a text.  An editor counts lines and characters from zero
(`Position`), the analyzer counts both from one (`AnalyzerPosition`); `AnalyzerPosition.toProtocol`
and `Position.toAnalyzer` go from one to the other.  Both count in 32-bit words, and going up stops
at the greatest word. -/

namespace SchemaServer

/-! ## Editor coordinates -/

/-- A place in a text as editors count it: line and UTF-16 unit, both from zero. -/
structure Position where
  line : UInt32
  character : UInt32
deriving DecidableEq, Repr, Inhabited

namespace Position

/-- Earlier lines come first, then earlier characters. -/
def order (a b : Position) : Ordering :=
  match compare a.line b.line with
  | .eq => compare a.character b.character
  | o => o

instance : Ord Position := ⟨order⟩

def origin : Position := ⟨0, 0⟩

def shape : Json.Shape Position :=
  (Json.Shape.record "Position" <|
    .required "line" Json.word32 <| .required "character" Json.word32 .nil).map
    fun (line, character, ()) => ⟨line, character⟩

def toJson (p : Position) : Json :=
  .object [("character", .ofWord32 p.character), ("line", .ofWord32 p.line)]

end Position

/-- A stretch of text between two places.  The end may stand before the start. -/
structure Range where
  start : Position
  stop : Position
deriving DecidableEq, Repr, Inhabited

namespace Range

def isEmpty (r : Range) : Bool := r.start == r.stop

def shape : Json.Shape Range :=
  (Json.Shape.record "Range" <|
    .required "start" Position.shape <| .required "end" Position.shape .nil).map
    fun (start, stop, ()) => ⟨start, stop⟩

def toJson (r : Range) : Json :=
  .object [("end", r.stop.toJson), ("start", r.start.toJson)]

end Range

/-! ## Analyzer coordinates -/

def word32Max : UInt32 := 4294967295

/-- One more, but never more than the greatest word. -/
def saturatingSucc (w : UInt32) : UInt32 := if w = word32Max then w else w + 1

theorem saturatingSucc_ne_zero (w : UInt32) : saturatingSucc w ≠ 0 := by
  unfold saturatingSucc word32Max
  split
  · rename_i h
    subst h
    decide
  · rename_i h
    intro hz
    have hw : (w.toNat + 1) % 2 ^ 32 = 0 := by simpa [UInt32.toNat_add] using congrArg UInt32.toNat hz
    have hlt : w.toNat < 2 ^ 32 := w.toNat_lt
    exact h (UInt32.toNat_inj.1 (show w.toNat = 4294967295 by omega))

/-- A place in a text as the analyzer counts it: line and column, both from one. -/
structure AnalyzerPosition where
  line : UInt32
  column : UInt32
  line_ne_zero : line ≠ 0
  column_ne_zero : column ≠ 0
deriving DecidableEq, Repr

namespace AnalyzerPosition

def ofWords? (line column : UInt32) : Option AnalyzerPosition :=
  if h : line ≠ 0 ∧ column ≠ 0 then some ⟨line, column, h.1, h.2⟩ else none

/-- The place with these coordinates, unless one of them is below one or above the greatest
    word. -/
def ofInts? (line column : Int) : Option AnalyzerPosition :=
  if 1 ≤ line ∧ line ≤ 4294967295 ∧ 1 ≤ column ∧ column ≤ 4294967295 then
    ofWords? (UInt32.ofNat line.toNat) (UInt32.ofNat column.toNat)
  else none

def toProtocol (p : AnalyzerPosition) : Position := ⟨p.line - 1, p.column - 1⟩

def shape : Json.Shape AnalyzerPosition :=
  .refine (.pair (.integer .i64) (.integer .i64)) fun (line, column) =>
    match ofInts? line column with
    | some p => .ok p
    | none => .error (.badPosition line column)

def toJson (p : AnalyzerPosition) : Json := .array [.ofWord32 p.line, .ofWord32 p.column]

end AnalyzerPosition

def Position.toAnalyzer (p : Position) : AnalyzerPosition :=
  ⟨saturatingSucc p.line, saturatingSucc p.character, saturatingSucc_ne_zero _,
    saturatingSucc_ne_zero _⟩

/-! ## Spans -/

/-- A stretch of text as the analyzer reports it: byte offsets, and places. -/
structure Span where
  startOffset : UInt64
  stopOffset : UInt64
  start : AnalyzerPosition
  stop : AnalyzerPosition
deriving DecidableEq, Repr

namespace Span

def toRange (s : Span) : Range := ⟨s.start.toProtocol, s.stop.toProtocol⟩

/-- The JSON form of a span; the offsets may be left out. -/
def shape : Json.Shape Span :=
  (Json.Shape.record "Span" <|
    .defaulted "start" Json.wordSize 0 <| .defaulted "end" Json.wordSize 0 <|
    .required "start_position" AnalyzerPosition.shape <|
    .required "end_position" AnalyzerPosition.shape .nil).map
    fun (startOffset, stopOffset, start, stop, ()) => ⟨startOffset, stopOffset, start, stop⟩

def toJson (s : Span) : Json :=
  .object [("end", .ofWord64 s.stopOffset), ("end_position", s.stop.toJson),
    ("start", .ofWord64 s.startOffset), ("start_position", s.start.toJson)]

end Span

end SchemaServer
