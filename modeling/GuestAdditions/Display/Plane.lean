import GuestAdditions.Kernel.Word
import GuestAdditions.Library.Transition
import Mathlib.Logic.Function.Basic

/-! The primary planes and the CRTCs of the outputs: what their callbacks send, in the order in which the
atomic helpers of the kernel call them, and what a host that takes the commands in order shows of it. The queue
loses no command. -/
namespace GuestAdditions

/-- What the display reads of `struct virtio_gpu_object`. -/
structure DisplayBo where
  hwResHandle : ℕ
  dumb : Bool
  host3dBlob : Bool
  guestBlob : Bool
  deriving DecidableEq

def DisplayBo.isBlob (bo : DisplayBo) : Bool := bo.host3dBlob || bo.guestBlob

/-- `struct drm_framebuffer`: `ptr` tells one from another. -/
structure Framebuffer where
  ptr : ℕ
  bo : DisplayBo
  cpp : ℕ
  pitch : ℕ
  offset : ℕ
  deriving DecidableEq

/-- Where the guest writes a pixel. -/
def Framebuffer.addr (fb : Framebuffer) (p : ℕ × ℕ) : ℕ := fb.offset+p.2*fb.pitch+p.1*fb.cpp

/-- `struct drm_rect`, of the damage. -/
structure DrmRect where
  x1 : ℕ
  y1 : ℕ
  x2 : ℕ
  y2 : ℕ
  wide : x1 ≤ x2
  high : y1 ≤ y2

/-- `struct drm_plane_state`, with the source in 16.16 fixed point, and `struct virtio_gpu_plane_state`. -/
structure PlaneState where
  fb : Option Framebuffer
  crtc : Bool
  srcX : ℕ
  srcY : ℕ
  srcW : ℕ
  srcH : ℕ
  fence : Bool

/-- The condition for a new scanout, but for `needs_modeset`. -/
def PlaneState.differs (new old : PlaneState) : Bool :=
  new.fb != old.fb || new.srcW != old.srcW || new.srcH != old.srcH || new.srcX != old.srcX || new.srcY != old.srcY

/-- The commands of the display, without the format of a blob. -/
inductive DisplayCmd
  | setScanout (scanoutId resourceId width height x y : ℕ)
  | setScanoutBlob (scanoutId resourceId width height x y stride offset : ℕ)
  | transferToHost2d (resourceId offset width height x y : ℕ)
  | resourceFlush (resourceId x y width height : ℕ)

/-- Whether the arrays of `virtio_gpu_update_dumb_bo` and `virtio_gpu_resource_flush` are allocated. -/
structure PlaneAllocs where
  upload : Bool
  flush : Bool

/-- `virtio_gpu_update_dumb_bo`. -/
def updateDumbBo (fb : Framebuffer) (rect : DrmRect) (alloc : Bool) : List DisplayCmd :=
  if alloc then
    [.transferToHost2d fb.bo.hwResHandle (wrap32 (rect.x1*fb.cpp+rect.y1*fb.pitch)) (rect.x2-rect.x1)
      (rect.y2-rect.y1) rect.x1 rect.y1]
  else []

/-- `virtio_gpu_resource_flush`. The wait for the fence changes nothing here. -/
def resourceFlush (fb : Framebuffer) (fence : Bool) (rect : DrmRect) (alloc : Bool) : List DisplayCmd :=
  if fence && !alloc then []
  else [.resourceFlush fb.bo.hwResHandle rect.x1 rect.y1 (rect.x2-rect.x1) (rect.y2-rect.y1)]

/-- The scanout of `virtio_gpu_primary_plane_update`. -/
def setPlaneScanout (index : ℕ) (new : PlaneState) (fb : Framebuffer) : DisplayCmd :=
  if fb.bo.isBlob then
    .setScanoutBlob index fb.bo.hwResHandle (new.srcW/2^16) (new.srcH/2^16) (new.srcX/2^16) (new.srcY/2^16)
      fb.pitch fb.offset
  else
    .setScanout index fb.bo.hwResHandle (new.srcW/2^16) (new.srcH/2^16) (new.srcX/2^16) (new.srcY/2^16)

/-- `virtio_gpu_primary_plane_update`: the commands, and `needs_modeset` afterwards. `damage` is what
`drm_atomic_helper_damage_merged` returns, and `active` is of the new state of the CRTC. -/
def primaryPlaneUpdate (index : ℕ) (old new : PlaneState) (active needsModeset : Bool) (damage : Option DrmRect)
    (allocs : PlaneAllocs) : List DisplayCmd × Bool :=
  if !new.crtc && !old.crtc then ([],needsModeset)
  else
    match new.fb,active with
    | some fb,true =>
      match damage with
      | none => ([],needsModeset)
      | some rect =>
        let upload := if fb.bo.dumb then updateDumbBo fb rect allocs.upload else []
        let flush := resourceFlush fb new.fence rect allocs.flush
        if new.differs old || needsModeset then (upload ++ setPlaneScanout index new fb::flush,false)
        else (upload ++ flush,needsModeset)
    | _,_ => ([.setScanout index 0 (new.srcW/2^16) (new.srcH/2^16) 0 0],needsModeset)

/-- What the host knows of a resource. -/
structure ResourceInfo where
  stride : ℕ
  isBlob : Bool

/-- What an output shows of a resource; of a blob with the length of its lines and its first byte. -/
structure HostScanout where
  resourceId : ℕ
  width : ℕ
  height : ℕ
  x : ℕ
  y : ℕ
  blob : Option (ℕ × ℕ)

/-- The host, with its copies of the resources that are not blobs, and what can be seen on the outputs. -/
structure DisplayHost (α : Type*) where
  contents : ℕ → ℕ × ℕ → α
  scanout : ℕ → Option HostScanout
  screen : ℕ → ℕ × ℕ → Option α

namespace DisplayHost
variable {α : Type*}

/-- What the host takes a pixel of a scanout from: its copy, or the guest's memory for a blob. -/
def pixel (mem : ℕ → ℕ → α) (h : DisplayHost α) (sc : HostScanout) (p : ℕ × ℕ) : α :=
  match sc.blob with
  | none => h.contents sc.resourceId p
  | some (stride,offset) => mem sc.resourceId (offset+p.2*stride+p.1*4)

def off (h : DisplayHost α) (o : ℕ) : DisplayHost α :=
  { h with scanout := Function.update h.scanout o none, screen := Function.update h.screen o fun _ => none }

def put (mem : ℕ → ℕ → α) (h : DisplayHost α) (o : ℕ) (sc : HostScanout) : DisplayHost α :=
  { h with
    scanout := Function.update h.scanout o (some sc)
    screen := Function.update h.screen o fun q =>
      if q.1 < sc.width ∧ q.2 < sc.height then some (h.pixel mem sc (sc.x+q.1,sc.y+q.2)) else none }

/-- The flushed pixels of the outputs that show the resource. -/
def flushed (mem : ℕ → ℕ → α) (h : DisplayHost α) (r x y width height : ℕ) (o : ℕ) (q : ℕ × ℕ) : Option α :=
  match h.scanout o with
  | none => h.screen o q
  | some sc =>
    if sc.resourceId = r ∧ (q.1 < sc.width ∧ q.2 < sc.height) ∧
        (x ≤ sc.x+q.1 ∧ sc.x+q.1 < x+width) ∧ (y ≤ sc.y+q.2 ∧ sc.y+q.2 < y+height) then
      some (h.pixel mem sc (sc.x+q.1,sc.y+q.2))
    else h.screen o q

/-- One command. There is nothing to transfer for a blob. -/
def exec (info : ℕ → ResourceInfo) (mem : ℕ → ℕ → α) (h : DisplayHost α) : DisplayCmd → DisplayHost α
  | .setScanout o r width height x y => if r = 0 then h.off o else h.put mem o ⟨r,width,height,x,y,none⟩
  | .setScanoutBlob o r width height x y lines offset => h.put mem o ⟨r,width,height,x,y,some (lines,offset)⟩
  | .transferToHost2d r offset width height x y =>
    if (info r).isBlob then h
    else { h with
      contents := Function.update h.contents r fun p =>
        if (x ≤ p.1 ∧ p.1 < x+width) ∧ (y ≤ p.2 ∧ p.2 < y+height) then
          mem r (offset+(p.2-y)*(info r).stride+(p.1-x)*4)
        else h.contents r p }
  | .resourceFlush r x y width height => { h with screen := h.flushed mem r x y width height }

end DisplayHost

/-- An atomic commit as one output sees it: whether its CRTC is active afterwards and needs a modeset, the mode
where it is set, the new state of the plane where there is one, and the damage. -/
structure Commit where
  active : Bool
  modeset : Bool
  setMode : Option (ℕ × ℕ)
  plane : Option PlaneState
  damage : Option DrmRect
  allocs : PlaneAllocs

/-- The callback that is next: `drm_atomic_helper_commit_tail` disables CRTCs and sets modes, then updates the
planes and flushes. -/
inductive CommitPc
  | disable
  | setMode
  | plane
  | flush
  deriving DecidableEq

/-- An output, with the states that its plane and its CRTC had at the last update of the plane. `fresh` are the
pixels of the framebuffer that an update has sent and that are unchanged since. -/
structure Output where
  plane : PlaneState
  active : Bool
  needsModeset : Bool
  commit : Option (Commit × CommitPc)
  fresh : ℕ × ℕ → Bool

/-- The device: the outputs, the memory of the resources, the host and what is queued for it. -/
structure DisplayDev (α : Type*) where
  outputs : ℕ → Output
  mem : ℕ → ℕ → α
  host : DisplayHost α
  queue : List DisplayCmd

/-- A commit reaches an output, the next callback of its commit is called, the guest writes to a resource, or
the host takes a command. -/
inductive DisplayEvent (α : Type*)
  | commit (o : ℕ) (c : Commit)
  | callback (o : ℕ)
  | draw (r : ℕ) (m : ℕ → α)
  | host

def DrmRect.covers (rect : DrmRect) (p : ℕ × ℕ) : Bool :=
  rect.x1 ≤ p.1 && p.1 < rect.x2 && rect.y1 ≤ p.2 && p.2 < rect.y2

/-- What an update of the plane sends: all of the damage, where its arrays are allocated. -/
def Commit.sends (c : Commit) (new : PlaneState) (p : ℕ × ℕ) : Bool :=
  match new.fb,c.damage with
  | some fb,some rect =>
    c.active && rect.covers p && (fb.bo.isBlob || (fb.bo.dumb && c.allocs.upload)) && (!new.fence || c.allocs.flush)
  | _,_ => false

namespace DisplayDev
variable {α : Type*}

def start (mem : ℕ → ℕ → α) (contents : ℕ → ℕ × ℕ → α) : DisplayDev α :=
  ⟨fun _ => ⟨⟨none,false,0,0,0,0,false⟩,false,false,none,fun _ => false⟩,mem,
    ⟨contents,fun _ => none,fun _ _ => none⟩,[]⟩

def set (s : DisplayDev α) (o : ℕ) (O : Output) (cmds : List DisplayCmd) : DisplayDev α :=
  { s with outputs := Function.update s.outputs o O, queue := s.queue ++ cmds }

/-- The next callback: `virtio_gpu_crtc_atomic_disable`, `virtio_gpu_crtc_mode_set_nofb`,
`virtio_gpu_primary_plane_update` or `virtio_gpu_crtc_atomic_flush`. -/
def callback (s : DisplayDev α) (o : ℕ) (c : Commit) : CommitPc → DisplayDev α
  | .disable =>
    s.set o { s.outputs o with commit := some (c,.setMode) }
      (if c.modeset && (s.outputs o).active then [.setScanout o 0 0 0 0 0] else [])
  | .setMode =>
    s.set o { s.outputs o with commit := some (c,.plane) }
      (match c.setMode with | none => [] | some (hdisplay,vdisplay) => [.setScanout o 0 hdisplay vdisplay 0 0])
  | .plane =>
    let out := s.outputs o
    match c.plane with
    | none => s.set o { out with active := c.active, commit := some (c,.flush) } []
    | some new =>
      let r := primaryPlaneUpdate o out.plane new c.active out.needsModeset c.damage c.allocs
      s.set o
        { plane := new
          active := c.active
          needsModeset := r.2
          commit := some (c,.flush)
          fresh := fun p => new.fb == out.plane.fb && out.fresh p || c.sends new p } r.1
  | .flush =>
    s.set o { s.outputs o with commit := none, needsModeset := (s.outputs o).needsModeset || c.modeset } []

/-- The guest's writes make the pixels stale that they change. -/
def drawn [DecidableEq α] (out : Output) (r : ℕ) (m m' : ℕ → α) : Output :=
  { out with fresh := fun p =>
      match out.plane.fb with
      | none => out.fresh p
      | some fb => out.fresh p && (fb.bo.hwResHandle != r || m (fb.addr p) == m' (fb.addr p)) }

/-- An event, if it is possible. -/
def step [DecidableEq α] (info : ℕ → ResourceInfo) (s : DisplayDev α) : DisplayEvent α → Option (DisplayDev α)
  | .commit o c =>
    match (s.outputs o).commit with
    | none => some (s.set o { s.outputs o with commit := some (c,.disable) } [])
    | some _ => none
  | .callback o =>
    match (s.outputs o).commit with
    | none => none
    | some (c,pc) => some (s.callback o c pc)
  | .draw r m => some { s with
      outputs := fun o => drawn (s.outputs o) r (s.mem r) m
      mem := Function.update s.mem r m }
  | .host =>
    match s.queue with
    | [] => none
    | cmd::queue => some { s with host := s.host.exec info s.mem cmd, queue := queue }

end DisplayDev
end GuestAdditions
