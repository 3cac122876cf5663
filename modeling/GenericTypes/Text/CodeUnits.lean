namespace GenericTypes.CodeUnits

/-- A scalar value beyond the basic plane is written as a high and a low surrogate. -/
def ofChar (c : Char) : List UInt16 :=
  if c.toNat < 0x10000 then
    [.ofNat c.toNat]
  else
    let offset := c.toNat - 0x10000
    [.ofNat (0xD800 + offset / 0x400), .ofNat (0xDC00 + offset % 0x400)]

def ofString (s : String) : List UInt16 :=
  s.toList.flatMap ofChar

/-- One step of the polynomial hash with base 31, modulo 2^32. -/
def hashStep (hash : Int32) (unit : UInt16) : Int32 :=
  hash * 31 + .ofNat unit.toNat

def hashFrom (hash : Int32) (units : List UInt16) : Int32 :=
  units.foldl hashStep hash

end GenericTypes.CodeUnits
