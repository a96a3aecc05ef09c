import OpenfortivpnRs.Error
import OpenfortivpnRs.Lib.Bytes

/-!
# The HDLC codec (`hdlc.rs`)

`encode` frames a packet for the PTY of pppd, `findFrame` looks for the next frame in a buffer and
`decode` unescapes a frame and checks its FCS.  Buffers are lists of bytes; an index into one is a
natural number.
-/

namespace OpenfortivpnRs.Hdlc

set_option maxRecDepth 4000 in
/-- The FCS-16 table. -/
def fcsTab : Vector UInt16 256 :=
  #v[0x0000, 0x1189, 0x2312, 0x329b, 0x4624, 0x57ad, 0x6536, 0x74bf, 0x8c48, 0x9dc1, 0xaf5a, 0xbed3,
  0xca6c, 0xdbe5, 0xe97e, 0xf8f7, 0x1081, 0x0108, 0x3393, 0x221a, 0x56a5, 0x472c, 0x75b7, 0x643e,
  0x9cc9, 0x8d40, 0xbfdb, 0xae52, 0xdaed, 0xcb64, 0xf9ff, 0xe876, 0x2102, 0x308b, 0x0210, 0x1399,
  0x6726, 0x76af, 0x4434, 0x55bd, 0xad4a, 0xbcc3, 0x8e58, 0x9fd1, 0xeb6e, 0xfae7, 0xc87c, 0xd9f5,
  0x3183, 0x200a, 0x1291, 0x0318, 0x77a7, 0x662e, 0x54b5, 0x453c, 0xbdcb, 0xac42, 0x9ed9, 0x8f50,
  0xfbef, 0xea66, 0xd8fd, 0xc974, 0x4204, 0x538d, 0x6116, 0x709f, 0x0420, 0x15a9, 0x2732, 0x36bb,
  0xce4c, 0xdfc5, 0xed5e, 0xfcd7, 0x8868, 0x99e1, 0xab7a, 0xbaf3, 0x5285, 0x430c, 0x7197, 0x601e,
  0x14a1, 0x0528, 0x37b3, 0x263a, 0xdecd, 0xcf44, 0xfddf, 0xec56, 0x98e9, 0x8960, 0xbbfb, 0xaa72,
  0x6306, 0x728f, 0x4014, 0x519d, 0x2522, 0x34ab, 0x0630, 0x17b9, 0xef4e, 0xfec7, 0xcc5c, 0xddd5,
  0xa96a, 0xb8e3, 0x8a78, 0x9bf1, 0x7387, 0x620e, 0x5095, 0x411c, 0x35a3, 0x242a, 0x16b1, 0x0738,
  0xffcf, 0xee46, 0xdcdd, 0xcd54, 0xb9eb, 0xa862, 0x9af9, 0x8b70, 0x8408, 0x9581, 0xa71a, 0xb693,
  0xc22c, 0xd3a5, 0xe13e, 0xf0b7, 0x0840, 0x19c9, 0x2b52, 0x3adb, 0x4e64, 0x5fed, 0x6d76, 0x7cff,
  0x9489, 0x8500, 0xb79b, 0xa612, 0xd2ad, 0xc324, 0xf1bf, 0xe036, 0x18c1, 0x0948, 0x3bd3, 0x2a5a,
  0x5ee5, 0x4f6c, 0x7df7, 0x6c7e, 0xa50a, 0xb483, 0x8618, 0x9791, 0xe32e, 0xf2a7, 0xc03c, 0xd1b5,
  0x2942, 0x38cb, 0x0a50, 0x1bd9, 0x6f66, 0x7eef, 0x4c74, 0x5dfd, 0xb58b, 0xa402, 0x9699, 0x8710,
  0xf3af, 0xe226, 0xd0bd, 0xc134, 0x39c3, 0x284a, 0x1ad1, 0x0b58, 0x7fe7, 0x6e6e, 0x5cf5, 0x4d7c,
  0xc60c, 0xd785, 0xe51e, 0xf497, 0x8028, 0x91a1, 0xa33a, 0xb2b3, 0x4a44, 0x5bcd, 0x6956, 0x78df,
  0x0c60, 0x1de9, 0x2f72, 0x3efb, 0xd68d, 0xc704, 0xf59f, 0xe416, 0x90a9, 0x8120, 0xb3bb, 0xa232,
  0x5ac5, 0x4b4c, 0x79d7, 0x685e, 0x1ce1, 0x0d68, 0x3ff3, 0x2e7a, 0xe70e, 0xf687, 0xc41c, 0xd595,
  0xa12a, 0xb0a3, 0x8238, 0x93b1, 0x6b46, 0x7acf, 0x4854, 0x59dd, 0x2d62, 0x3ceb, 0x0e70, 0x1ff9,
  0xf78f, 0xe606, 0xd49d, 0xc514, 0xb1ab, 0xa022, 0x92b9, 0x8330, 0x7bc7, 0x6a4e, 0x58d5, 0x495c,
  0x3de3, 0x2c6a, 0x1ef1, 0x0f78]
def addressControlChecksum : UInt16 := 0x3de3
def goodFinalFcs : UInt16 := 0xf0b8

/-- The flag byte between frames. -/
def flag : UInt8 := 0x7e

/-- The three bytes every encoded frame starts with: address, and the escaped control byte. -/
def addressControl : List UInt8 := [0xff, 0x7d, 0x03 ^^^ 0x20]

/-! ### Checksum -/

theorem low_lt (x : UInt16) : (x &&& 0xff).toNat < 256 := by
  rw [UInt16.toNat_and]
  exact Nat.and_lt_two_pow _ (show (0xff : UInt16).toNat < 2 ^ 8 by decide)

/-- The table index of a step: the low byte of `sum ^ byte`. -/
def fcsIndex (sum : UInt16) (byte : UInt8) : Fin 256 :=
  ⟨((sum ^^^ byte.toUInt16) &&& 0xff).toNat, low_lt _⟩

/-- `frame_checksum_16bit`. -/
def frameChecksum16bit (sum : UInt16) (seq : List UInt8) : UInt16 :=
  seq.foldl (fun sum byte => (sum >>> 8) ^^^ fcsTab.get (fcsIndex sum byte)) sum

/-! ### Encoding -/

def inSendingAccm (byte : UInt8) : Bool :=
  byte < 0x20 || (byte &&& 0x7f) == 0x7d || (byte &&& 0x7f) == 0x7e

def inReceivingAccm (byte : UInt8) : Bool := byte < 0x20

def pushEscaped (out : List UInt8) (byte : UInt8) : List UInt8 :=
  if inSendingAccm byte then out ++ [0x7d, byte ^^^ 0x20] else out ++ [byte]

structure HdlcCodec where
  needFlagSequence : Bool
  deriving DecidableEq, Repr

namespace HdlcCodec

def new : HdlcCodec := ⟨true⟩

def estimatedEncodedSize (packetLen : ℕ) : ℕ := 9 + 2 * packetLen

def estimatedDecodedSize (frameLen : ℕ) : ℕ := frameLen

/-- `encode`: the frame, and the codec it leaves. -/
def encode (codec : HdlcCodec) (packet : List UInt8) : List UInt8 × HdlcCodec :=
  let frame := (if codec.needFlagSequence then [flag] else []) ++ addressControl
  let checksum := frameChecksum16bit addressControlChecksum packet
  let frame := packet.foldl pushEscaped frame
  let checksum := checksum ^^^ 0xffff
  let frame := pushEscaped frame (checksum &&& 0x00ff).toUInt8
  let frame := pushEscaped frame (checksum >>> 8).toUInt8
  (frame ++ [flag], { codec with needFlagSequence := false })

end HdlcCodec

/-! ### Searching for a frame -/

/-- The index of the first flag at or after `i`. -/
def nextFlag (buffer : List UInt8) (i : ℕ) : Option ℕ :=
  ((buffer.drop i).findIdx? (· == flag)).map (· + i)

/-- The first index at or after `i` that does not hold a flag. -/
def skipFlags (buffer : List UInt8) (i : ℕ) : ℕ :=
  i + ((buffer.drop i).takeWhile (· == flag)).length

/-- `find_frame`: the length of the next frame, and the value `start` is left with. -/
def findFrame (buffer : List UInt8) (start : ℕ) : Result ℕ × ℕ :=
  match nextFlag buffer start with
  | none => (.error .hdlcNoFrameFound, start)
  | some i =>
    let s := skipFlags buffer (i + 1)
    match nextFlag buffer s with
    | none => (.error .hdlcNoFrameFound, start)
    | some e => (.ok (e - s), s)

/-! ### Decoding -/

/-- The loop of `decode` over the raw bytes: the bytes unescaped so far, and whether an escape byte
waits for its partner. -/
def unescape : (packet : List UInt8) → (inEscape : Bool) → List UInt8 → Result (List UInt8 × Bool)
  | packet, inEscape, [] => .ok (packet, inEscape)
  | packet, inEscape, byte :: raw =>
    if byte = 0x7d then
      if inEscape then .error .hdlcInvalidFrame else unescape packet true raw
    else if inEscape then unescape (packet ++ [byte ^^^ 0x20]) false raw
    else if inReceivingAccm byte then unescape packet false raw
    else unescape (packet ++ [byte]) false raw

/-- The frame has the address and control fields. -/
def hasAddressControlFields (frame : List UInt8) : Bool := frame.take 3 == addressControl

def decode (frame : List UInt8) : Result (List UInt8) :=
  if frame.length < 5 then .error .hdlcInvalidFrame
  else
    let start := if hasAddressControlFields frame then 3 else 0
    match unescape [] false (frame.drop start) with
    | .error err => .error err
    | .ok (packet, inEscape) =>
      if inEscape || packet.length < 3 then .error .hdlcInvalidFrame
      else
        let initial := if hasAddressControlFields frame then addressControlChecksum else 0xffff
        if frameChecksum16bit initial packet ≠ goodFinalFcs then .error .hdlcBadChecksum
        else .ok (packet.take (packet.length - 2))

example : decode ((HdlcCodec.new.encode [0x80, 0x21, 0x01, 0x7d, 0x7e]).1.drop 1).dropLast =
    .ok [0x80, 0x21, 0x01, 0x7d, 0x7e] := by decide

end OpenfortivpnRs.Hdlc
