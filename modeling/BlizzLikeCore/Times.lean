/-!
# Times

`TimeConstants`, in seconds.
-/

namespace BlizzLike

def minute : Nat := 60
def hour : Nat := 60 * minute
def day : Nat := 24 * hour

end BlizzLike
