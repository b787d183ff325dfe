import Mathlib.Data.Fin.VecNotation

/-
  Fixed-width words of the source, and the register
  addresses and register bits of the KSZ8851 that the low
  level driver uses (`ksz8851.h`).

  Key definitions include:
    * `UBYTE`, `UWORD`, `ULONG`
    * `Memory`
    * the register addresses `regIsr`, `regIer`, ...
    * the register bits `isrLcis`, `ierLcie`, ...
-/

------------------------------------------------------------
-- Words and Memory
------------------------------------------------------------

namespace KszDriver

/- The unsigned integer types of `exec/types.h`. -/
abbrev UBYTE := BitVec 8
abbrev UWORD := BitVec 16
abbrev ULONG := BitVec 32

/- The bytes that a pointer points to, by their offset. -/
abbrev Memory := Nat → UBYTE

/- A station address, as the six bytes of a `MacAddr`. -/
abbrev MacAddr := Fin 6 → UBYTE

/- The high byte of a word. -/
def highByte (word : UWORD) : UBYTE :=
  (word >>> 8).setWidth 8

/- The low byte of a word. -/
def lowByte (word : UWORD) : UBYTE :=
  word.setWidth 8

/- The word with the given high and low byte. -/
def wordOf (high low : UBYTE) : UWORD :=
  high.setWidth 16 <<< 8 ||| low.setWidth 16

/- `*(uint16_t*)(m + i)` on the big-endian processor. -/
def Memory.wordAt (m : Memory) (i : Nat) : UWORD :=
  wordOf (m i) (m (i + 1))

/- The first `n` bytes of a memory area. -/
def Memory.bytes (m : Memory) (n : Nat) : List UBYTE :=
  (List.range n).map m

/- The memory area `offset` bytes further on. -/
def Memory.drop (m : Memory) (offset : Nat) : Memory :=
  fun i => m (offset + i)

theorem Memory.drop_zero (m : Memory) : m.drop 0 = m := by
  funext i
  exact congrArg m (Nat.zero_add i)

theorem Memory.drop_drop (m : Memory) (offset k : Nat) :
    (m.drop offset).drop k = m.drop (offset + k) := by
  funext i
  exact congrArg m (Nat.add_assoc offset k i).symm

@[simp] theorem Memory.length_bytes (m : Memory) (n : Nat) :
    (m.bytes n).length = n := by
  simp [Memory.bytes]

/- The bytes of a memory area, in two parts. -/
theorem Memory.bytes_add (m : Memory) (n k : Nat) :
    m.bytes (n + k) = m.bytes n ++ (m.drop n).bytes k := by
  unfold Memory.bytes
  rw [List.range_add, List.map_append, List.map_map]
  rfl

/- `memcpy(m + offset, source, n)`. -/
def Memory.copyInto
    (m : Memory)
    (offset : Nat)
    (source : Memory)
    (n : Nat) : Memory :=
  fun i =>
    if offset ≤ i ∧ i < offset + n then source (i - offset)
    else m i

/- A station address as a memory area. -/
def MacAddr.memory (addr : MacAddr) : Memory :=
  fun i => if h : i < 6 then addr ⟨i, h⟩ else 0

/- The station address at the start of a memory area. -/
def Memory.macAddr (m : Memory) : MacAddr :=
  fun i => m i.val

------------------------------------------------------------
-- Byte Enable Bits of the Command Port
------------------------------------------------------------

def cmdB0 : UWORD := 0x1000#16
def cmdB1 : UWORD := 0x2000#16
def cmdB2 : UWORD := 0x4000#16
def cmdB3 : UWORD := 0x8000#16

------------------------------------------------------------
-- Register Addresses
------------------------------------------------------------

def regMarl : UBYTE := 0x10#8
def regMarm : UBYTE := 0x12#8
def regMarh : UBYTE := 0x14#8
def regGrr : UBYTE := 0x26#8
def regTxcr : UBYTE := 0x70#8
def regRxcr1 : UBYTE := 0x74#8
def regRxcr2 : UBYTE := 0x76#8
def regTxmir : UBYTE := 0x78#8
def regRxfhsr : UBYTE := 0x7C#8
def regRxfhbcr : UBYTE := 0x7E#8
def regTxqcr : UBYTE := 0x80#8
def regRxqcr : UBYTE := 0x82#8
def regTxfdpr : UBYTE := 0x84#8
def regRxfdpr : UBYTE := 0x86#8
def regIer : UBYTE := 0x90#8
def regIsr : UBYTE := 0x92#8
def regRxfctr : UBYTE := 0x9C#8
def regMahtr0 : UBYTE := 0xA0#8
def regMahtr1 : UBYTE := 0xA2#8
def regMahtr2 : UBYTE := 0xA4#8
def regMahtr3 : UBYTE := 0xA6#8
def regCider : UBYTE := 0xC0#8
def regPmecr : UBYTE := 0xD4#8
def regP1cr : UBYTE := 0xF6#8
def regP1sr : UBYTE := 0xF8#8

/- The device identifier that `CIDER` reads as. -/
def revA3Id : UWORD := 0x8872#16

------------------------------------------------------------
-- Register Bits
------------------------------------------------------------

def grrQmuModuleSoftRst : UWORD := 0x0002#16
def grrGlobalSoftRst : UWORD := 0x0001#16
def grrNoReset : UWORD := 0x0000#16

def txcrTxfce : UWORD := 0x0008#16
def txcrTxpe : UWORD := 0x0004#16
def txcrTxce : UWORD := 0x0002#16
def txcrTxe : UWORD := 0x0001#16

def rxcr1Rxpafma : UWORD := 0x0800#16
def rxcr1Rxfce : UWORD := 0x0400#16
def rxcr1Rxbe : UWORD := 0x0080#16
def rxcr1Rxme : UWORD := 0x0040#16
def rxcr1Rxue : UWORD := 0x0020#16
def rxcr1Rxe : UWORD := 0x0001#16

def rxcr2Srdbl2 : UWORD := 0x0080#16
def rxcr2Iuffp : UWORD := 0x0010#16
def rxcr2Rxiufcez : UWORD := 0x0008#16

def txmirTxmaMask : UWORD := 0x1FFF#16

def rxfhsrRxfv : UWORD := 0x8000#16
def rxfhsrRxicmpfcs : UWORD := 0x2000#16
def rxfhsrRxipfcs : UWORD := 0x1000#16
def rxfhsrRxtcpfcs : UWORD := 0x0800#16
def rxfhsrRxudpfcs : UWORD := 0x0400#16
def rxfhsrRxmr : UWORD := 0x0010#16
def rxfhsrRxftl : UWORD := 0x0004#16
def rxfhsrRxrf : UWORD := 0x0002#16
def rxfhsrRxce : UWORD := 0x0001#16

def rxfhbcrRxbcMask : UWORD := 0x0FFF#16

def txqcrMetfe : UWORD := 0x0001#16

def rxqcrRxiphtoe : UWORD := 0x0200#16
def rxqcrRxfcte : UWORD := 0x0020#16
def rxqcrAdrfe : UWORD := 0x0010#16
def rxqcrSda : UWORD := 0x0008#16
def rxqcrRrxef : UWORD := 0x0001#16

def txfdprTxfpai : UWORD := 0x4000#16
def rxfdprRxfpai : UWORD := 0x4000#16
def rxfdprEms : UWORD := 0x0800#16

def ierLcie : UWORD := 0x8000#16
def ierTxie : UWORD := 0x4000#16
def ierRxie : UWORD := 0x2000#16
def ierRxoie : UWORD := 0x0800#16
def ierLdie : UWORD := 0x0008#16

def isrLcis : UWORD := 0x8000#16
def isrTxis : UWORD := 0x4000#16
def isrRxis : UWORD := 0x2000#16
def isrRxois : UWORD := 0x0800#16
def isrTxpsis : UWORD := 0x0200#16
def isrRxpsis : UWORD := 0x0100#16
def isrTxsais : UWORD := 0x0040#16
def isrRxwfdis : UWORD := 0x0020#16
def isrRxmpdis : UWORD := 0x0010#16
def isrLdis : UWORD := 0x0008#16
def isrEdis : UWORD := 0x0004#16
def isrSpibeis : UWORD := 0x0002#16

def p1crRestartAn : UWORD := 0x2000#16
def p1crForceDuplex : UWORD := 0x0020#16

def p1srOperationSpeed : UWORD := 0x0400#16
def p1srOperationDuplex : UWORD := 0x0200#16
def p1srLinkGood : UWORD := 0x0020#16

def txCtrlTxic : UWORD := 0x8000#16
def txCtrlTxfid : UWORD := 0x003F#16

/- The largest frame the low level driver sends. -/
def ethMaxFrameSize : Nat := 1518

/- The size of an Ethernet header. -/
def ethHeaderSize : Nat := 14

------------------------------------------------------------
-- Error Codes of the Low Level Driver
------------------------------------------------------------

/- `error_t`, a signed byte. -/
abbrev ErrorT := Int

def errorWrongIdentifier : ErrorT := -1
def errorOutOfMemory : ErrorT := -2
def noError : ErrorT := 0
def errorInvalidLength : ErrorT := -3
def errorFailure : ErrorT := -4
def errorInvalidPacket : ErrorT := -5
def noChipFound : ErrorT := -6

end KszDriver
