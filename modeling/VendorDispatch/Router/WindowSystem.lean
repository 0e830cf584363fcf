import VendorDispatch.Wire.Client
import VendorDispatch.Router.Access

/-!
What the router needs from the window system it runs in.

The window system and the vendors live in a world of their own, of type `σ`. The router never looks
inside it: it passes the current world to every question, and takes the world back from every
callback that may have changed it.
-/

namespace VendorDispatch

/-- The questions that the router asks of the window system, answered from the current world. -/
structure WindowSystem (σ : Type) where
  /-- The number of screens. -/
  screenCount : σ → Nat
  /-- The screen of a drawable of any kind. -/
  lookupDrawable : σ → Xid → AccessMode → Option Nat
  /-- Whether the client may use an id for a new resource. -/
  legalNewResource : σ → Xid → Client → Bool
  /-- Whether the window system is shutting down for good. -/
  isExiting : σ → Bool

end VendorDispatch
