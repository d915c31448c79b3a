import SchemaServer.Url.Percent

/-! # Path segments

The path of a URL is a list of segments.  `.` and `..` are resolved as they are read, also in their
percent-coded spellings.  A segment that looks like a drive letter is never taken back by `..`; as
the first segment of a file path it is written with a colon.  Tabs and line breaks are dropped, but
one right after a drive letter that begins a file path ends that segment. -/

namespace SchemaServer.Url

def isDropped (c : Char) : Bool := c == '\t' || c == '\n' || c == '\r'

def kept (cs : List Char) : List Char := cs.filter fun c => !isDropped c

/-- Whether a segment names a drive: a letter, then a colon or a bar. -/
def isDrive : List Char → Bool
  | [c, d] => c.isAlpha && (d == ':' || d == '|')
  | _ => false

def plainDots : List Char → List Char
  | '%' :: '2' :: 'e' :: rest => '.' :: plainDots rest
  | '%' :: '2' :: 'E' :: rest => '.' :: plainDots rest
  | c :: rest => c :: plainDots rest
  | [] => []

def isDoubleDot (segment : List Char) : Bool := plainDots segment == ['.', '.']

def isSingleDot (segment : List Char) : Bool := plainDots segment == ['.']

/-- Take back the last segment, unless it names a drive.  Segments are held last first. -/
def dropLastSegment : List (List Char) → List (List Char)
  | [] => []
  | segment :: rest => if isDrive segment then segment :: rest else rest

/-- The segments read so far, last first, and whether a drive began the path of a file. -/
structure Trail where
  segments : List (List Char) := []
  drive : Bool := false

def Trail.push (file : Bool) (t : Trail) (segment : List Char) : Trail :=
  match file && t.segments.isEmpty && isDrive segment, segment with
  | true, letter :: _ => { segments := [[letter, ':']], drive := true }
  | _, _ => { t with segments := segment :: t.segments }

/-- A drive letter and the rest of its segment, if a dropped character stands between them. -/
def driveBreak? (raw : List Char) : Option (List Char × List Char) :=
  match raw.dropWhile isDropped with
  | [] => none
  | letter :: rest =>
    match rest.dropWhile isDropped with
    | ':' :: after =>
      if letter.isAlpha && after.head?.any isDropped && !(kept after).isEmpty then
        some ([letter, ':'], kept after)
      else none
    | _ => none

def Trail.pushRaw (file : Bool) (t : Trail) (raw : List Char) : Trail :=
  match file && t.segments.isEmpty, driveBreak? raw with
  | true, some (drive, rest) => { t with segments := [percentEncode codedPath rest, drive] }
  | _, _ => t.push file (percentEncode codedPath (kept raw))

/-- Follow the raw segments of a path.  The last one ends the path: if it is a dot segment, the path
    ends in a slash. -/
def Trail.follow (file : Bool) : Trail → List (List Char) → Trail
  | t, [] => t
  | t, [last] =>
    if isDoubleDot (kept last) then { t with segments := [] :: dropLastSegment t.segments }
    else if isSingleDot (kept last) then { t with segments := [] :: t.segments }
    else t.pushRaw file last
  | t, segment :: rest =>
    if isDoubleDot (kept segment) then
      Trail.follow file { t with segments := dropLastSegment t.segments } rest
    else if isSingleDot (kept segment) then t.follow file rest
    else (t.pushRaw file segment).follow file rest

def Trail.path (t : Trail) : List Char := t.segments.reverse.flatMap fun segment => '/' :: segment

/-- The text of the path of a file: empty segments at its start are left out. -/
def Trail.filePath (t : Trail) : List Char := '/' :: t.path.dropWhile (· == '/')

end SchemaServer.Url
