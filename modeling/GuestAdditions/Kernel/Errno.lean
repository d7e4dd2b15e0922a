import Mathlib.Data.Int.Notation

/-! The errno values of the kernel that the drivers return or compare against. A C `int` result
is an integer: 0 for success, a negated errno for failure, and any other value a host may send. -/
namespace GuestAdditions

abbrev ENOENT : ℤ := 2
abbrev EIO : ℤ := 5
abbrev ENOMEM : ℤ := 12
abbrev EACCES : ℤ := 13
abbrev EFAULT : ℤ := 14
abbrev EBUSY : ℤ := 16
abbrev EEXIST : ℤ := 17
abbrev ENODEV : ℤ := 19
abbrev EINVAL : ℤ := 22
abbrev ENOSPC : ℤ := 28
abbrev ENOSYS : ℤ := 38
abbrev ETIMEDOUT : ℤ := 110
abbrev EUCLEAN : ℤ := 117
abbrev ERESTARTSYS : ℤ := 512

end GuestAdditions
