/-!
# The release

What the program calls itself when it shows its usage, its version or that it starts.
-/

namespace Culprit.Release

def command : String := "faultline"

def title : String := "Faultline"

def version : String := "0.3.0"

end Culprit.Release
