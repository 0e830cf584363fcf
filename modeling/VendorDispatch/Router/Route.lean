import VendorDispatch.Wire.Opcode
import VendorDispatch.Wire.ProtocolError

/-!
Requests that go to exactly one vendor, chosen by one field of the request.

* `routedRequests` lists them; `RoutedRequest.find?` finds one by its opcode.
* `routedRequests_nodup`: no opcode is listed twice.
-/

namespace VendorDispatch

/-- How a request names its vendor. -/
inductive Route
  /-- By a screen: its owner serves the request. -/
  | screen
  /-- By a resource: its owner, or that of its screen, serves the request. -/
  | xid
  /-- By a context tag: the vendor whose context is current serves the request. -/
  | tag
  deriving DecidableEq, Repr, Inhabited

/-- The name of a kind of route. -/
def Route.name : Route → String
  | screen => "Screen"
  | xid => "Xid"
  | tag => "Tag"

/-- A request that goes to one vendor. -/
structure RoutedRequest where
  /-- The minor opcode. -/
  opcode : UInt8
  /-- The name of the request. -/
  name : String
  /-- What the routing field holds. -/
  route : Route
  /-- The byte offset of the routing field. -/
  offset : Nat
  /-- The answer when nobody owns the routing field. -/
  failsWith : ProtocolError
  /-- The byte offset of the id of a resource that the request creates. -/
  adds : Option Nat := none
  /-- The byte offset of the id of a resource that the request destroys. -/
  removes : Option Nat := none
  deriving DecidableEq, Repr

namespace RoutedRequest

/-- A request routed by its context tag. -/
def byTag (opcode : UInt8) (name : String) : RoutedRequest :=
  { opcode, name, route := .tag, offset := 4, failsWith := .extension .badContextTag }

/-- A request routed by its screen, which may create a resource. -/
def byScreen (opcode : UInt8) (name : String) (offset : Nat) (adds : Option Nat) : RoutedRequest :=
  { opcode, name, route := .screen, offset, failsWith := .badMatch, adds }

/-- A request routed by a resource, which it may destroy. -/
def byXid (opcode : UInt8) (name : String) (failsWith : ProtocolError) (destroys : Bool) :
    RoutedRequest :=
  { opcode, name, route := .xid, offset := 4, failsWith,
    removes := if destroys then some 4 else none }

end RoutedRequest

open RoutedRequest in
/-- Every request that goes to one vendor. -/
def routedRequests : List RoutedRequest :=
  [byTag Opcode.render "Render",
   byTag Opcode.renderLarge "RenderLarge",
   byScreen Opcode.createContext "CreateContext" 12 (some 4),
   byXid Opcode.destroyContext "DestroyContext" (.extension .badContext) true,
   byTag Opcode.waitGL "WaitGL",
   byTag Opcode.waitX "WaitX",
   byTag Opcode.useXFont "UseXFont",
   byScreen Opcode.createGLXPixmap "CreateGLXPixmap" 4 (some 16),
   byScreen Opcode.getVisualConfigs "GetVisualConfigs" 4 none,
   byXid Opcode.destroyGLXPixmap "DestroyGLXPixmap" (.extension .badPixmap) true,
   byScreen Opcode.queryExtensionsString "QueryExtensionsString" 4 none,
   byScreen Opcode.queryServerString "QueryServerString" 4 none,
   byXid Opcode.changeDrawableAttributes "ChangeDrawableAttributes" .badDrawable false,
   byScreen Opcode.createNewContext "CreateNewContext" 12 (some 4),
   byScreen Opcode.createPbuffer "CreatePbuffer" 4 (some 12),
   byScreen Opcode.createPixmap "CreatePixmap" 4 (some 16),
   byScreen Opcode.createWindow "CreateWindow" 4 (some 16),
   byScreen Opcode.createContextAttribsARB "CreateContextAttribsARB" 12 (some 4),
   byXid Opcode.destroyPbuffer "DestroyPbuffer" (.extension .badPbuffer) true,
   byXid Opcode.destroyPixmap "DestroyPixmap" (.extension .badPixmap) true,
   byXid Opcode.destroyWindow "DestroyWindow" (.extension .badWindow) true,
   byXid Opcode.getDrawableAttributes "GetDrawableAttributes" .badDrawable false,
   byScreen Opcode.getFBConfigs "GetFBConfigs" 4 none,
   byXid Opcode.queryContext "QueryContext" (.extension .badContext) false,
   byXid Opcode.isDirect "IsDirect" (.extension .badContext) false]

/-- The routed request with the given opcode. -/
def RoutedRequest.find? (opcode : UInt8) : Option RoutedRequest :=
  routedRequests.find? fun r => r.opcode = opcode

/-- No opcode is listed twice. -/
theorem routedRequests_nodup : (routedRequests.map RoutedRequest.opcode).Nodup := by decide

end VendorDispatch
