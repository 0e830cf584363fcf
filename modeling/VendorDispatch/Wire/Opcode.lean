/-!
Minor opcodes: the second byte of every request says what it asks for.
-/

namespace VendorDispatch

namespace Opcode

def render : UInt8 := 1
def renderLarge : UInt8 := 2
def createContext : UInt8 := 3
def destroyContext : UInt8 := 4
def makeCurrent : UInt8 := 5
def isDirect : UInt8 := 6
def queryVersion : UInt8 := 7
def waitGL : UInt8 := 8
def waitX : UInt8 := 9
def copyContext : UInt8 := 10
def swapBuffers : UInt8 := 11
def useXFont : UInt8 := 12
def createGLXPixmap : UInt8 := 13
def getVisualConfigs : UInt8 := 14
def destroyGLXPixmap : UInt8 := 15
def vendorPrivate : UInt8 := 16
def vendorPrivateWithReply : UInt8 := 17
def queryExtensionsString : UInt8 := 18
def queryServerString : UInt8 := 19
def clientInfo : UInt8 := 20
def getFBConfigs : UInt8 := 21
def createPixmap : UInt8 := 22
def destroyPixmap : UInt8 := 23
def createNewContext : UInt8 := 24
def queryContext : UInt8 := 25
def makeContextCurrent : UInt8 := 26
def createPbuffer : UInt8 := 27
def destroyPbuffer : UInt8 := 28
def getDrawableAttributes : UInt8 := 29
def changeDrawableAttributes : UInt8 := 30
def createWindow : UInt8 := 31
def destroyWindow : UInt8 := 32
def setClientInfoARB : UInt8 := 33
def createContextAttribsARB : UInt8 := 34
def setClientInfo2ARB : UInt8 := 35

/-- Opcodes from here on are single requests: each is routed by the context tag it carries. -/
def firstSingle : UInt8 := 100

end Opcode

/-- The vendor code of the one vendor-private request that the router serves itself: the oldest
spelling of make-current with a separate read drawable. -/
def makeCurrentReadCode : UInt32 := 65537

/-- The version of the extension that the router reports. -/
def extensionVersion : UInt32 × UInt32 := (1, 4)

end VendorDispatch
