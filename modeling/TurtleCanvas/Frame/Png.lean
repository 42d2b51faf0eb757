import TurtleCanvas.Picture

/-!
# Pictures as PNG files

A picture is written as an RGB image of eight bits a component, its rows unfiltered and its data
stored without compression.

* `Picture.toPng` : the bytes of the file.
-/

namespace TurtleCanvas

namespace Png

/-- A whole number as four bytes, the highest first. -/
def bigEndian (n : Nat) : List UInt8 :=
  [n / 16777216, n / 65536, n / 256, n].map fun k => UInt8.ofNat (k % 256)

/-- A whole number as two bytes, the lowest first. -/
def littleEndian (n : Nat) : List UInt8 := [n, n / 256].map fun k => UInt8.ofNat (k % 256)

/-- One bit of the polynomial division behind the check sum of a chunk. -/
def crcBit (c : UInt32) : UInt32 := if c &&& 1 == 1 then (c >>> 1) ^^^ 0xEDB88320 else c >>> 1

/-- One byte of that division. -/
def crcByte (c : UInt32) (b : UInt8) : UInt32 :=
  crcBit (crcBit (crcBit (crcBit (crcBit (crcBit (crcBit (crcBit (c ^^^ b.toUInt32))))))))

/-- The check sum of a chunk. -/
def crc (bytes : ByteArray) : UInt32 := bytes.foldl crcByte 0xFFFFFFFF ^^^ 0xFFFFFFFF

/-- The check sum of the uncompressed data. -/
def adler (bytes : ByteArray) : Nat :=
  let (a, b) := bytes.foldl (fun (a, b) byte =>
    let a := (a + byte.toNat) % 65521
    (a, (b + a) % 65521)) (1, 0)
  b * 65536 + a

/-- A chunk: its length, its name, its data and its check sum. -/
def chunk (name : String) (data : ByteArray) : ByteArray :=
  let named := name.toUTF8 ++ data
  ⟨(bigEndian data.size).toArray⟩ ++ named ++ ⟨(bigEndian (crc named).toNat).toArray⟩

/-- The greatest number of bytes in a stored block. -/
def blockSize : Nat := 65535

/-- Data in stored blocks, of which the last is marked; `fuel` bounds their number. -/
def storedBlocks (data : ByteArray) : Nat → Nat → ByteArray
  | 0, _ => .empty
  | fuel + 1, start =>
    let stop := min data.size (start + blockSize)
    let length := stop - start
    let isLast : UInt8 := if stop = data.size then 1 else 0
    let header : List UInt8 := isLast :: littleEndian length ++ littleEndian (65535 - length)
    let block : ByteArray := ⟨header.toArray⟩ ++ data.extract start stop
    if stop = data.size then block else block ++ storedBlocks data fuel stop

/-- Data as a stream without compression. -/
def stream (data : ByteArray) : ByteArray :=
  ⟨#[0x78, 0x01]⟩ ++ storedBlocks data (data.size / blockSize + 1) 0 ++
    ⟨(bigEndian (adler data)).toArray⟩

end Png

namespace Picture

/-- The rows of a picture, each behind the mark of an unfiltered row. -/
def scanLines (p : Picture) : ByteArray :=
  (List.range p.height).foldl (fun bytes y =>
    (List.range p.width).foldl (fun bytes x =>
      let c := p.pixel x y
      ((bytes.push c.red).push c.green).push c.blue) (bytes.push 0)) .empty

/-- A picture as the bytes of a PNG file. -/
def toPng (p : Picture) : ByteArray :=
  let size := Png.bigEndian p.width ++ Png.bigEndian p.height
  ⟨#[0x89, 0x50, 0x4E, 0x47, 0x0D, 0x0A, 0x1A, 0x0A]⟩ ++
    Png.chunk "IHDR" ⟨(size ++ [8, 2, 0, 0, 0]).toArray⟩ ++
    Png.chunk "IDAT" (Png.stream p.scanLines) ++ Png.chunk "IEND" .empty

end Picture

end TurtleCanvas
