/-! Context flags.

The services a context offers are bits of a 32-bit word, in the order of the standard
interface: delegation, mutual authentication, replay and sequence detection,
confidentiality, integrity, anonymity, protection readiness and transferability. -/
namespace GssApi.ContextFlags

def delegation : UInt32 := 1
def mutualAuth : UInt32 := 2
def replayDetection : UInt32 := 4
def sequencing : UInt32 := 8
def confidentiality : UInt32 := 16
def integrity : UInt32 := 32
def anonymity : UInt32 := 64
def protReady : UInt32 := 128
def transferable : UInt32 := 256

/-- Whether a flag is among the bits. -/
def has (bits flag : UInt32) : Bool := bits &&& flag != 0

end GssApi.ContextFlags
