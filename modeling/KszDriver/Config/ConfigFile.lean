import KszDriver.Config.MacAddress

/-
  Reading a key of the configuration file (`configfile.c`):
  line by line into `linebuff`, and from there to `ReadArgs`.

  `FGets` delivers at most so many bytes as were asked for,
  less one, up to and including the next newline.  What
  `ReadArgs` makes of a buffer is not part of the driver.

  Main declarations:
    * `fgetsPiece`, `filePieces`
    * `LineBuffer`, `readKeyLines`
    * `readKeyStr`, `readKeyInt`
-/

------------------------------------------------------------
-- Reading the File
------------------------------------------------------------

namespace KszDriver

def newline : UBYTE := 0x0a#8

/- `LINE_MAX_LEN`, and the size of `linebuff`. -/
def lineMaxLen : Nat := 255
def linebuffSize : Nat := lineMaxLen + 3

/- A text up to and including its first newline. -/
def throughNewline : List UBYTE → List UBYTE
| [] => []
| c :: text =>
    if c = newline then [c] else c :: throughNewline text

/- What `FGets` with room for `n` bytes delivers. -/
def fgetsPiece (n : Nat) (input : List UBYTE) : List UBYTE :=
  (throughNewline input).take (n - 1)

/- What the calls of `FGets` deliver one after the other, up to
   the one that finds the end of the file. -/
def pieces (n : Nat) : Nat → List UBYTE → List (List UBYTE)
| 0, _ => []
| calls + 1, input =>
    if input = [] then []
    else
      fgetsPiece n input ::
        pieces n calls (input.drop (fgetsPiece n input).length)

/- Every call delivers a byte at least. -/
def filePieces (file : List UBYTE) : List (List UBYTE) :=
  pieces lineMaxLen file.length file

------------------------------------------------------------
-- The Line Buffer
------------------------------------------------------------

/-
  The memory at `linebuff`, by the index into it, and the
  indices that were stored to.  Of each buffer that was
  handed to `ReadArgs` is kept where in the file its text
  began.
-/
structure LineBuffer where
  mem : Int → UBYTE
  stores : List Int
  pos : Nat
  handed : List (Nat × (Int → UBYTE))

namespace LineBuffer

/- `linebuff[i] = c` -/
def store (b : LineBuffer) (i : Int) (c : UBYTE) :
    LineBuffer :=
  { b with
    mem := Function.update b.mem i c
    stores := i :: b.stores }

/- A string is stored, with the `NUL` that ends it. -/
def storeString (b : LineBuffer) (i : Int) :
    List UBYTE → LineBuffer
| [] => b.store i 0#8
| c :: text => (b.store i c).storeString (i + 1) text

/- `FGets` stores a piece of the file. -/
def fgets (b : LineBuffer) (piece : List UBYTE) : LineBuffer :=
  { b.storeString 0 piece with pos := b.pos + piece.length }

/- The first `n` bytes of the buffer. -/
def text (mem : Int → UBYTE) (n : Nat) : List UBYTE :=
  (List.range n).map (fun i : Nat => mem i)

/- `strlen(linebuff)` -/
def strlen (b : LineBuffer) : Nat :=
  ((text b.mem linebuffSize).takeWhile (fun c => c != 0#8)).length

/- The line is ended by a newline and `NUL`. -/
def endLine (b : LineBuffer) : LineBuffer :=
  let strlength : Int := b.strlen
  (b.store (strlength - 1) newline).store strlength 0#8

/- What `ReadArgs` takes from `CS_Buffer`, which is as long
   as `CS_Length` says: the text that a newline ends. -/
def source (b : LineBuffer) : List UBYTE :=
  throughNewline (text b.mem 256)

/- The buffer is handed to `ReadArgs`, with a text that began
   at `pos`. -/
def hand (b : LineBuffer) (pos : Nat) : LineBuffer :=
  { b with handed := (pos, b.mem) :: b.handed }

/- The buffer before a key is read, whatever it holds. -/
def untouched (mem : Int → UBYTE) : LineBuffer :=
  { mem, stores := [], pos := 0, handed := [] }

end LineBuffer

/- Comment lines, space lines and empty lines are skipped. -/
def Skipped (c : UBYTE) : Prop :=
  c = 0x23#8 ∨ c = 0x20#8 ∨ c = newline

instance (c : UBYTE) : Decidable (Skipped c) := by
  unfold Skipped
  infer_instance

------------------------------------------------------------
-- Reading a Key
------------------------------------------------------------

section Read

variable {ν : Type}

/-
  `ReadArgs` with the one argument of a template: whether it
  accepts a text, and what the argument is, if it is there.
-/
abbrev ArgsReader (ν : Type) := List UBYTE → Option (Option ν)

/- The loop over the lines. -/
def readKeyLines (readArgs : ArgsReader ν) :
    List (List UBYTE) → LineBuffer → Option ν × LineBuffer
| [], b => (none, b)
| piece :: rest, b =>
    let lineStart := b.pos
    let b := b.fgets piece
    if Skipped (b.mem 0) then readKeyLines readArgs rest b
    else
      let b := b.endLine.hand lineStart
      match readArgs b.source with
      | some (some value) => (some value, b)
      | _ => readKeyLines readArgs rest b

/- What both ways of reading a key have in common. -/
def readKey
    (readArgs : ArgsReader ν)
    (configFileOpen : Bool)
    (file : List UBYTE)
    (b : LineBuffer) : Option ν × LineBuffer :=
  if configFileOpen then
    readKeyLines readArgs (filePieces file) { b with pos := 0 }
  else (none, b)

end Read

/- `ReadKeyStr`, for what `ReadArgs` makes of a template and
   a text. -/
def readKeyStr
    (readArgs : CString → ArgsReader CString)
    (configFileOpen : Bool)
    (file : List UBYTE)
    (key : CString)
    (default : Option CString)
    (b : LineBuffer) : Option CString × LineBuffer :=
  let result := readKey (readArgs key) configFileOpen file b
  (result.1.or default, result.2)

/- `"/N"` -/
def numberSuffix : CString := [0x2f#8, 0x4e#8]

/- `ReadKeyInt`; with each key of the driver the template fits
   into `TempKey`. -/
def readKeyInt
    (readArgs : CString → ArgsReader ULONG)
    (configFileOpen : Bool)
    (file : List UBYTE)
    (key : CString)
    (default : ULONG)
    (b : LineBuffer) : ULONG × LineBuffer :=
  let result := readKey (readArgs (key ++ numberSuffix))
    configFileOpen file b
  (result.1.getD default, result.2)

end KszDriver
