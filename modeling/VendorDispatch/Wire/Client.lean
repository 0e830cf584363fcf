import VendorDispatch.Bytes

/-!
A client connection, as the router and the vendors see it while one of its requests is served.

* `Client.beginRequest` starts the next request: it counts it, stores its bytes and clears the
  error value.
* `Client.requestOfWords` spells a request out of 32-bit numbers.
* `Client.byteOrder` is the order of the client's numbers; the router itself runs little-endian.
-/

namespace VendorDispatch

/-- Names a resource of the window system. Zero names nothing. -/
abbrev Xid := UInt32

/-- Names a client connection. -/
structure ClientId where
  /-- The connection's number. -/
  number : UInt32
  deriving DecidableEq, Repr, Inhabited

/-- One client connection, with its current request. -/
structure Client where
  /-- Which connection this is. -/
  id : ClientId
  /-- Set when the client's byte order differs from the router's. -/
  swapped : Bool := false
  /-- The sequence number of the current request. -/
  sequence : UInt16 := 0
  /-- The bytes of the current request, header included. -/
  request : List UInt8 := []
  /-- The replies written for this client, oldest first. -/
  replies : List (List UInt8) := []
  /-- The bad value reported beside the next error. -/
  errorValue : UInt32 := 0
  deriving DecidableEq, Repr, Inhabited

namespace Client

/-- The order in which the client writes and reads numbers. -/
def byteOrder (c : Client) : ByteOrder :=
  if c.swapped then .big else .little

/-- The bytes of a request: its opcodes, its length in units of four bytes, and its words. -/
def requestOfWords (c : Client) (major minor : UInt8) (words : List UInt32) : List UInt8 :=
  [major, minor] ++ c.byteOrder.encode 2 (1 + words.length) ++
    words.flatMap fun w => c.byteOrder.encode 4 w.toNat

/-- Starts the client's next request. The sequence number wraps around. -/
def beginRequest (c : Client) (request : List UInt8) : Client :=
  { c with sequence := c.sequence + 1, request := request, errorValue := 0 }

/-- Adds a reply after those already written. -/
def writeReply (c : Client) (reply : List UInt8) : Client :=
  { c with replies := c.replies ++ [reply] }

end Client

end VendorDispatch
