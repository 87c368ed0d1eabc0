import GssApi.Error
/-! Minor status codes of the ticket mechanism.

The ticket mechanism reports these codes beside the routine outcome of an error, so that a
caller can tell apart causes that share one outcome. -/
namespace GssApi.Minor

/-- A target name that is not of the form service@host. -/
def badServiceName : UInt32 := 1
/-- A ticket, authenticator or reply that failed validation. -/
def validateFailed : UInt32 := 4
/-- A token that cannot be framed. -/
def wrongSize : UInt32 := 7
/-- A credential used for something it cannot do. -/
def badUsage : UInt32 := 8
/-- No ticket for the requested service. -/
def ccacheNoMatch : UInt32 := 10
/-- A ticket for another service than the acceptor's. -/
def keytabNoMatch : UInt32 := 11
/-- No ticket source to ask. -/
def tgtMissing : UInt32 := 12
/-- A context that is already established. -/
def contextEstablished : UInt32 := 14
/-- A signing algorithm that does not fit the key. -/
def badSignType : UInt32 := 15
/-- A token whose parts have inconsistent lengths. -/
def badLength : UInt32 := 16
/-- A context that is not yet established. -/
def contextIncomplete : UInt32 := 17

end GssApi.Minor
