import GuestAdditions.Library.Transition
import GuestAdditions.GunyahGuest.PoolRequest
import GuestAdditions.GuestPool.Grants
import GuestAdditions.GuestPool.Doubt
import GuestAdditions.GuestPool.LargestFree
import GuestAdditions.GuestPool.Reclaim
import GuestAdditions.GuestPool.Scatter
import GuestAdditions.GuestPool.Teardown
import GuestAdditions.Blob.Returns
import GuestAdditions.Gem.Context
import GuestAdditions.GunyahGuest.PoolOwnership
import GuestAdditions.Vram.Stitch
import GuestAdditions.Vram.Folio
import GuestAdditions.GunyahGuest.ReplyMatching
import GuestAdditions.GunyahGuest.AcceptFate
import GuestAdditions.GuestPool.SizeArithmetic
import GuestAdditions.Vram.ExportExtent
import GuestAdditions.Blob.Ioctl
import GuestAdditions.Packaging.Initramfs
import GuestAdditions.Ctrlq.Timeline
import GuestAdditions.Ctrlq.InOrder
import GuestAdditions.Ctrlq.Notify
import GuestAdditions.Submit.Balance
import GuestAdditions.Submit.Outcome
import GuestAdditions.Resource.HostView
import GuestAdditions.Capset.HostAnswers
import GuestAdditions.Gem.ContextIds
import GuestAdditions.Prime.Uuid
import GuestAdditions.Kms.Probe
import GuestAdditions.Display.Plane
import GuestAdditions.Display.Scanout
import GuestAdditions.Display.Screens
import GuestAdditions.Display.Modeset
