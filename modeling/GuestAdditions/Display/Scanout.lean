import GuestAdditions.Display.Plane

/-! What the outputs show is what the guest has drawn: the host shows the framebuffer of the plane or nothing,
and the pixels that were sent are on the screen. -/
namespace GuestAdditions

/-- A framebuffer whose pixels lie where the host looks for them. Neither the upload nor the scanout of a dumb
buffer looks at its offset. -/
structure Framebuffer.Plain (info : ℕ → ResourceInfo) (fb : Framebuffer) : Prop where
  handle : fb.bo.hwResHandle ≠ 0
  cpp : fb.cpp = 4
  isBlob : (info fb.bo.hwResHandle).isBlob = fb.bo.isBlob
  lines : fb.bo.isBlob = false → fb.offset = 0 ∧ fb.pitch = (info fb.bo.hwResHandle).stride

lemma Framebuffer.Plain.addr_eq {info : ℕ → ResourceInfo} {fb : Framebuffer} (hfb : fb.Plain info)
    (hblob : fb.bo.isBlob = false) (p : ℕ × ℕ) :
    fb.addr p = p.2*(info fb.bo.hwResHandle).stride+p.1*4 := by
  obtain ⟨hoff,hpitch⟩ := hfb.lines hblob
  rw [Framebuffer.addr,hoff,hpitch,hfb.cpp,Nat.zero_add]

/-- A commit as the core makes it for an output whose plane and CRTC are in these states: a CRTC is switched and
a mode is set in a modeset only, which has the plane with it, and where the plane changes, it is visible: all of
it is damaged. -/
structure Commit.Proper (info : ℕ → ResourceInfo) (plane : PlaneState) (active : Bool) (c : Commit) : Prop where
  switches : c.modeset = false → c.active = active
  sets : c.setMode.isSome → c.modeset = true
  adds : c.modeset = true → c.plane = none → plane.fb = none
  bound : ∀ new, c.plane = some new → new.fb.isSome → new.crtc = true
  plain : ∀ new fb, c.plane = some new → new.fb = some fb → fb.Plain info
  inRange : ∀ new fb rect, c.plane = some new → new.fb = some fb → c.damage = some rect →
    rect.x1*fb.cpp+rect.y1*fb.pitch < 2^32
  visible : ∀ new, c.plane = some new → c.modeset = false → c.active = true → new.fb.isSome →
    new.differs plane = true → c.damage.isSome

lemma DrmRect.covers_iff {rect : DrmRect} {p : ℕ × ℕ} : rect.covers p = true ↔
    ((rect.x1 ≤ p.1 ∧ p.1 < rect.x2) ∧ rect.y1 ≤ p.2) ∧ p.2 < rect.y2 := by
  simp only [DrmRect.covers,Bool.and_eq_true,decide_eq_true_iff]

def HostScanout.at (sc : HostScanout) (q : ℕ × ℕ) : ℕ × ℕ := (sc.x+q.1,sc.y+q.2)

def HostScanout.Has (sc : HostScanout) (q : ℕ × ℕ) : Prop := q.1 < sc.width ∧ q.2 < sc.height

/-- The scanout that the state of a plane asks for. -/
def PlaneState.shows (plane : PlaneState) (fb : Framebuffer) : HostScanout :=
  ⟨fb.bo.hwResHandle,plane.srcW/2^16,plane.srcH/2^16,plane.srcX/2^16,plane.srcY/2^16,
    if fb.bo.isBlob then some (fb.pitch,fb.offset) else none⟩

namespace DisplayCmd

/-- A transfer reads each pixel where it belongs. -/
def Plain (info : ℕ → ResourceInfo) : DisplayCmd → Prop
  | .transferToHost2d r offset _ _ x y => (info r).isBlob = false → offset = x*4+y*(info r).stride
  | _ => True

/-- The output whose scanout is set. -/
def output : DisplayCmd → Option ℕ
  | .setScanout o _ _ _ _ _ => some o
  | .setScanoutBlob o _ _ _ _ _ _ _ => some o
  | _ => none

end DisplayCmd

namespace DisplayHost
variable {α : Type*} {info : ℕ → ResourceInfo} {mem : ℕ → ℕ → α} {h : DisplayHost α} {cmd : DisplayCmd}
  {o : ℕ} {plane old new : PlaneState} {fresh : ℕ × ℕ → Bool} {fb : Framebuffer}

/-- The host has the pixels of the framebuffer. -/
def Uploaded (mem : ℕ → ℕ → α) (h : DisplayHost α) (plane : PlaneState) (fresh : ℕ × ℕ → Bool) : Prop :=
  ∀ fb, plane.fb = some fb → fb.bo.isBlob = false → ∀ p, fresh p = true →
    h.contents fb.bo.hwResHandle p = mem fb.bo.hwResHandle (fb.addr p)

/-- The output shows the plane or nothing, and the fresh pixels are at the host and on the screen. -/
structure Pictured (mem : ℕ → ℕ → α) (h : DisplayHost α) (o : ℕ) (plane : PlaneState) (fresh : ℕ × ℕ → Bool) :
    Prop where
  scanout : ∀ sc, h.scanout o = some sc → ∃ fb, plane.fb = some fb ∧ sc = plane.shows fb
  uploaded : h.Uploaded mem plane fresh
  screen : ∀ fb, plane.fb = some fb → h.scanout o = some (plane.shows fb) → ∀ q, (plane.shows fb).Has q →
    fresh ((plane.shows fb).at q) = true →
      h.screen o q = some (mem fb.bo.hwResHandle (fb.addr ((plane.shows fb).at q)))

lemma off_scanout_self (h : DisplayHost α) (o : ℕ) : (h.off o).scanout o = none := Function.update_self _ _ _

lemma off_scanout_of_ne {o' : ℕ} (hne : o ≠ o') : (h.off o').scanout o = h.scanout o :=
  Function.update_of_ne hne _ _

lemma off_screen_of_ne {o' : ℕ} (hne : o ≠ o') : (h.off o').screen o = h.screen o :=
  Function.update_of_ne hne _ _

lemma put_scanout_self (mem : ℕ → ℕ → α) (h : DisplayHost α) (o : ℕ) (sc : HostScanout) :
    (h.put mem o sc).scanout o = some sc := Function.update_self _ _ _

lemma put_scanout_of_ne {o' : ℕ} (hne : o ≠ o') (sc : HostScanout) :
    (h.put mem o' sc).scanout o = h.scanout o := Function.update_of_ne hne _ _

lemma put_screen_self (mem : ℕ → ℕ → α) (h : DisplayHost α) (o : ℕ) (sc : HostScanout) (q : ℕ × ℕ) :
    (h.put mem o sc).screen o q =
      if q.1 < sc.width ∧ q.2 < sc.height then some (h.pixel mem sc (sc.at q)) else none :=
  congrFun (Function.update_self o _ h.screen) q

lemma put_screen_of_ne {o' : ℕ} (hne : o ≠ o') (sc : HostScanout) :
    (h.put mem o' sc).screen o = h.screen o := Function.update_of_ne hne _ _

lemma exec_scanout (hother : cmd.output ≠ some o) : (h.exec info mem cmd).scanout o = h.scanout o := by
  cases cmd with
  | setScanout o' r width height x y =>
    have hne : o ≠ o' := fun heq => hother (congrArg some heq.symm)
    unfold exec
    dsimp only
    split
    · exact off_scanout_of_ne hne
    · exact put_scanout_of_ne hne _
  | setScanoutBlob o' r width height x y lines offset =>
    have hne : o ≠ o' := fun heq => hother (congrArg some heq.symm)
    exact put_scanout_of_ne hne _
  | transferToHost2d r offset width height x y =>
    unfold exec
    dsimp only
    split <;> rfl
  | resourceFlush r x y width height => rfl

lemma transfer_addr {offset x y stride : ℕ} {p : ℕ × ℕ} (hoff : offset = x*4+y*stride) (hx : x ≤ p.1)
    (hy : y ≤ p.2) : offset+(p.2-y)*stride+(p.1-x)*4 = p.2*stride+p.1*4 := by
  have hlines : p.2*stride = y*stride+(p.2-y)*stride := by rw [← Nat.add_mul,Nat.add_sub_cancel' hy]
  omega

/-- A transfer reads what the guest has drawn. -/
theorem exec_contents (hcmd : cmd.Plain info) (h : DisplayHost α) (mem : ℕ → ℕ → α) (r : ℕ) (p : ℕ × ℕ) :
    (h.exec info mem cmd).contents r p = h.contents r p ∨
      (h.exec info mem cmd).contents r p = mem r (p.2*(info r).stride+p.1*4) := by
  cases cmd with
  | setScanout o' r' width height x y =>
    unfold exec
    dsimp only
    split <;> exact .inl rfl
  | setScanoutBlob o' r' width height x y lines offset => exact .inl rfl
  | resourceFlush r' x y width height => exact .inl rfl
  | transferToHost2d r' offset width height x y =>
    unfold exec
    dsimp only
    split
    · exact .inl rfl
    rename_i hblob
    have hoff : offset = x*4+y*(info r').stride := hcmd (Bool.eq_false_of_not_eq_true hblob)
    by_cases hr : r = r'
    · subst hr
      dsimp only
      rw [Function.update_self]
      split
      · rename_i hin
        exact .inr (congrArg (mem r) (transfer_addr hoff hin.1.1 hin.2.1))
      · exact .inl rfl
    · exact .inl (congrFun (Function.update_of_ne hr _ _) p)

lemma Uploaded.exec (hu : h.Uploaded mem plane fresh) (hfb : ∀ fb, plane.fb = some fb → fb.Plain info)
    (hcmd : cmd.Plain info) : (h.exec info mem cmd).Uploaded mem plane fresh := by
  intro fb hplane hblob p hp
  rcases exec_contents hcmd h mem fb.bo.hwResHandle p with hold | hread
  · exact hold.trans (hu fb hplane hblob p hp)
  · rw [hread,(hfb fb hplane).addr_eq hblob]

/-- Where the host takes a pixel of the plane from, there is what the guest has drawn. -/
theorem Uploaded.pixel (hu : h.Uploaded mem plane fresh) (hplane : plane.fb = some fb) (hfb : fb.Plain info)
    {p : ℕ × ℕ} (hp : fresh p = true) :
    h.pixel mem (plane.shows fb) p = mem fb.bo.hwResHandle (fb.addr p) := by
  unfold DisplayHost.pixel PlaneState.shows
  cases hblob : fb.bo.isBlob with
  | false => exact hu fb hplane hblob p hp
  | true => simp [Framebuffer.addr,hfb.cpp]

lemma exec_screen (hother : cmd.output ≠ some o) (info : ℕ → ResourceInfo) (mem : ℕ → ℕ → α) (q : ℕ × ℕ) :
    (h.exec info mem cmd).screen o q = h.screen o q ∨ ∃ sc, h.scanout o = some sc ∧
      (h.exec info mem cmd).screen o q = some (h.pixel mem sc (sc.at q)) := by
  cases cmd with
  | setScanout o' r width height x y =>
    have hne : o ≠ o' := fun heq => hother (congrArg some heq.symm)
    unfold exec
    dsimp only
    split
    · exact .inl (congrFun (off_screen_of_ne hne) q)
    · exact .inl (congrFun (put_screen_of_ne hne _) q)
  | setScanoutBlob o' r width height x y lines offset =>
    have hne : o ≠ o' := fun heq => hother (congrArg some heq.symm)
    exact .inl (congrFun (put_screen_of_ne hne _) q)
  | transferToHost2d r offset width height x y =>
    unfold exec
    dsimp only
    split <;> exact .inl rfl
  | resourceFlush r x y width height =>
    unfold exec flushed
    dsimp only
    split
    · exact .inl rfl
    · rename_i sc hsc
      split
      · exact .inr ⟨sc,hsc,rfl⟩
      · exact .inl rfl

/-- The commands of another output, and those that set no scanout. -/
theorem Pictured.exec (hp : h.Pictured mem o plane fresh) (hfb : ∀ fb, plane.fb = some fb → fb.Plain info)
    (hcmd : cmd.Plain info) (hother : cmd.output ≠ some o) :
    (h.exec info mem cmd).Pictured mem o plane fresh := by
  have hsc : (h.exec info mem cmd).scanout o = h.scanout o := exec_scanout hother
  refine ⟨fun sc hs => hp.scanout sc (hsc.symm.trans hs),hp.uploaded.exec hfb hcmd,
    fun fb hplane hs q hq hfresh => ?_⟩
  rw [hsc] at hs
  rcases exec_screen (h := h) hother info mem q with hold | ⟨sc,hsc',hread⟩
  · exact hold.trans (hp.screen fb hplane hs q hq hfresh)
  · obtain rfl : plane.shows fb = sc := Option.some.inj (hs.symm.trans hsc')
    rw [hread,hp.uploaded.pixel hplane (hfb fb hplane) hfresh]

lemma off_pictured (hu : h.Uploaded mem plane fresh) : (h.off o).Pictured mem o plane fresh := by
  refine ⟨fun sc hs => ?_,hu,fun fb _ hs => ?_⟩
  · cases (h.off_scanout_self o).symm.trans hs
  · cases (h.off_scanout_self o).symm.trans hs

lemma exec_off (h : DisplayHost α) (width height : ℕ) :
    h.exec info mem (.setScanout o 0 width height 0 0) = h.off o := by
  rw [exec,if_pos rfl]

lemma exec_setPlaneScanout (hfb : fb.Plain info) :
    h.exec info mem (setPlaneScanout o plane fb) = h.put mem o (plane.shows fb) := by
  unfold setPlaneScanout PlaneState.shows
  split
  · rfl
  · exact if_neg hfb.handle

lemma put_pictured (hu : h.Uploaded mem plane fresh) (hplane : plane.fb = some fb) (hfb : fb.Plain info) :
    (h.put mem o (plane.shows fb)).Pictured mem o plane fresh := by
  have hsome := h.put_scanout_self mem o (plane.shows fb)
  refine ⟨fun sc hs => ⟨fb,hplane,Option.some.inj (hs.symm.trans hsome)⟩,hu,fun fb' hplane' _ q hq hfresh => ?_⟩
  obtain rfl : fb = fb' := Option.some.inj (hplane.symm.trans hplane')
  rw [put_screen_self,if_pos ⟨hq.1,hq.2⟩,hu.pixel hplane hfb hfresh]

/-- The flush brings what has been sent to the screen. -/
theorem Pictured.flush {more : ℕ × ℕ → Bool} (hp : h.Pictured mem o plane fresh) (hplane : plane.fb = some fb)
    (hfb : fb.Plain info) (hu : h.Uploaded mem plane more) (rect : DrmRect)
    (hmore : ∀ p, more p = true → fresh p = true ∨ rect.covers p = true) :
    (h.exec info mem (.resourceFlush fb.bo.hwResHandle rect.x1 rect.y1 (rect.x2-rect.x1) (rect.y2-rect.y1))).Pictured
      mem o plane more := by
  refine ⟨hp.scanout,hu,fun fb' hplane' hs q hq hq' => ?_⟩
  obtain rfl : fb = fb' := Option.some.inj (hplane.symm.trans hplane')
  have hpixel := hu.pixel hplane hfb hq'
  change h.flushed mem _ _ _ _ _ o q = _
  unfold flushed
  rw [show h.scanout o = some (plane.shows fb) from hs]
  dsimp only
  split
  · exact congrArg some hpixel
  · rename_i hout
    rcases hmore _ hq' with hfresh | hcovers
    · exact hp.screen fb hplane hs q hq hfresh
    · refine absurd ⟨rfl,hq,?_⟩ hout
      have hwide := rect.wide
      have hhigh := rect.high
      obtain ⟨⟨⟨hx1,hx2⟩,hy1⟩,hy2⟩ := DrmRect.covers_iff.mp hcovers
      unfold HostScanout.at at hx1 hx2 hy1 hy2
      dsimp only at hx1 hx2 hy1 hy2
      omega

variable {cmds : List DisplayCmd} {c : Commit} {rect : DrmRect} {needsModeset active : Bool}

lemma execs_scanout (hcmds : ∀ cmd ∈ cmds, cmd.output ≠ some o) :
    (cmds.foldl (DisplayHost.exec info mem) h).scanout o = h.scanout o := by
  induction cmds generalizing h with
  | nil => rfl
  | cons cmd cmds ih =>
    obtain ⟨hcmd,hcmds⟩ := List.forall_mem_cons.mp hcmds
    exact (ih hcmds).trans (exec_scanout hcmd)

lemma Uploaded.execs (hu : h.Uploaded mem plane fresh) (hfb : ∀ fb, plane.fb = some fb → fb.Plain info)
    (hcmds : ∀ cmd ∈ cmds, cmd.Plain info) :
    (cmds.foldl (DisplayHost.exec info mem) h).Uploaded mem plane fresh := by
  induction cmds generalizing h with
  | nil => exact hu
  | cons cmd cmds ih =>
    obtain ⟨hcmd,hcmds⟩ := List.forall_mem_cons.mp hcmds
    exact ih (hu.exec hfb hcmd) hcmds

lemma Pictured.execs (hp : h.Pictured mem o plane fresh) (hfb : ∀ fb, plane.fb = some fb → fb.Plain info)
    (hcmds : ∀ cmd ∈ cmds, cmd.Plain info ∧ cmd.output ≠ some o) :
    (cmds.foldl (DisplayHost.exec info mem) h).Pictured mem o plane fresh := by
  induction cmds generalizing h with
  | nil => exact hp
  | cons cmd cmds ih =>
    obtain ⟨hcmd,hcmds⟩ := List.forall_mem_cons.mp hcmds
    exact ih (hp.exec hfb hcmd.1 hcmd.2) hcmds

/-- The upload of the plane, if it is of a dumb buffer. -/
def uploadOf (fb : Framebuffer) (rect : DrmRect) (alloc : Bool) : List DisplayCmd :=
  if fb.bo.dumb then updateDumbBo fb rect alloc else []

lemma uploadOf_cases (hfb : fb.Plain info) (hrange : rect.x1*fb.cpp+rect.y1*fb.pitch < 2^32) (alloc : Bool) :
    (uploadOf fb rect alloc = [] ∧ (fb.bo.dumb && alloc) = false) ∨ ∃ offset, uploadOf fb rect alloc =
      [.transferToHost2d fb.bo.hwResHandle offset (rect.x2-rect.x1) (rect.y2-rect.y1) rect.x1 rect.y1] ∧
      (fb.bo.isBlob = false → offset = rect.x1*4+rect.y1*(info fb.bo.hwResHandle).stride) := by
  unfold uploadOf updateDumbBo
  cases fb.bo.dumb with
  | false => exact .inl ⟨rfl,rfl⟩
  | true =>
    cases alloc with
    | false => exact .inl ⟨rfl,rfl⟩
    | true =>
      refine .inr ⟨_,rfl,fun hblob => ?_⟩
      rw [wrap32_of_lt hrange,hfb.cpp,(hfb.lines hblob).2]

lemma uploadOf_plain (hfb : fb.Plain info) (hrange : rect.x1*fb.cpp+rect.y1*fb.pitch < 2^32) (alloc : Bool) :
    ∀ cmd ∈ uploadOf fb rect alloc, cmd.Plain info ∧ cmd.output = none := by
  intro cmd hcmd
  rcases uploadOf_cases hfb hrange alloc with ⟨hnone,-⟩ | ⟨offset,hone,hoff⟩
  · rw [hnone] at hcmd
    cases hcmd
  · rw [hone,List.mem_singleton] at hcmd
    subst hcmd
    exact ⟨fun hblob => hoff (hfb.isBlob.symm.trans hblob),rfl⟩

/-- What is fresh after an update of the plane is at the host, as soon as the upload is. -/
theorem Uploaded.upload (hu : h.Uploaded mem old fresh) (hold : ∀ fb, old.fb = some fb → fb.Plain info)
    (hnew : new.fb = some fb) (hfb : fb.Plain info) (hdamage : c.damage = some rect)
    (hrange : rect.x1*fb.cpp+rect.y1*fb.pitch < 2^32) :
    ((uploadOf fb rect c.allocs.upload).foldl (DisplayHost.exec info mem) h).Uploaded mem new
      (fun p => new.fb == old.fb && fresh p || c.sends new p) := by
  have hplain := uploadOf_plain hfb hrange c.allocs.upload
  intro fb' hfb' hblob p hp
  obtain rfl : fb = fb' := Option.some.inj (hnew.symm.trans hfb')
  rcases (Bool.or_eq_true _ _).mp hp with hsame | hsends
  · obtain ⟨hsame,hfresh⟩ := (Bool.and_eq_true _ _).mp hsame
    exact hu.execs hold (fun cmd hcmd => (hplain cmd hcmd).1) fb ((eq_of_beq hsame).symm.trans hnew) hblob p hfresh
  · unfold Commit.sends at hsends
    rw [hnew,hdamage] at hsends
    simp only [hblob,Bool.false_or,Bool.and_eq_true] at hsends
    obtain ⟨⟨⟨-,hcovers⟩,hdumb,halloc⟩,-⟩ := hsends
    rcases uploadOf_cases hfb hrange c.allocs.upload with ⟨-,hno⟩ | ⟨offset,hone,hoff⟩
    · simp [hdumb,halloc] at hno
    · obtain ⟨⟨⟨hx1,hx2⟩,hy1⟩,hy2⟩ := DrmRect.covers_iff.mp hcovers
      rw [hone,hfb.addr_eq hblob,List.foldl_cons,List.foldl_nil,DisplayHost.exec,
        if_neg (by rw [hfb.isBlob,hblob]; exact Bool.false_ne_true)]
      dsimp only
      rw [Function.update_self,if_pos (by omega),transfer_addr (hoff hblob) hx1 hy1]

lemma resourceFlush_cases (fb : Framebuffer) (fence : Bool) (rect : DrmRect) (alloc : Bool) :
    (resourceFlush fb fence rect alloc = [] ∧ (!fence || alloc) = false) ∨ resourceFlush fb fence rect alloc =
      [.resourceFlush fb.bo.hwResHandle rect.x1 rect.y1 (rect.x2-rect.x1) (rect.y2-rect.y1)] := by
  unfold resourceFlush
  cases fence with
  | false => exact .inr rfl
  | true =>
    cases alloc with
    | false => exact .inl ⟨rfl,rfl⟩
    | true => exact .inr rfl

/-- The flush of an update, if it is made. -/
theorem Pictured.flushes {more : ℕ × ℕ → Bool} (hp : h.Pictured mem o plane fresh) (hplane : plane.fb = some fb)
    (hfb : fb.Plain info) (hu : h.Uploaded mem plane more) (rect : DrmRect) (fence alloc : Bool)
    (hmore : ∀ p, more p = true → fresh p = true ∨ rect.covers p = true ∧ (!fence || alloc) = true) :
    ((resourceFlush fb fence rect alloc).foldl (DisplayHost.exec info mem) h).Pictured mem o plane more := by
  rcases resourceFlush_cases fb fence rect alloc with ⟨hnone,hno⟩ | hone
  · rw [hnone]
    refine ⟨hp.scanout,hu,fun fb' hplane' hs q hq hfresh => ?_⟩
    rcases hmore _ hfresh with hfresh | ⟨-,halloc⟩
    · exact hp.screen fb' hplane' hs q hq hfresh
    · rw [hno] at halloc
      cases halloc
  · rw [hone]
    exact hp.flush hplane hfb hu rect fun p hp' => (hmore p hp').imp_right And.left

lemma resourceFlush_scanout (fence : Bool) (rect : DrmRect) (alloc : Bool) :
    ((resourceFlush fb fence rect alloc).foldl (DisplayHost.exec info mem) h).scanout o = h.scanout o := by
  refine execs_scanout fun cmd hcmd => ?_
  rcases resourceFlush_cases fb fence rect alloc with ⟨hnone,-⟩ | hone
  · rw [hnone] at hcmd
    cases hcmd
  · rw [hone,List.mem_singleton] at hcmd
    rw [hcmd]
    exact nofun

lemma differs_eq_false (hsame : new.differs old = false) :
    new.fb = old.fb ∧ ∀ fb, new.shows fb = old.shows fb := by
  simp only [PlaneState.differs,Bool.or_eq_false_iff,bne_eq_false_iff_eq] at hsame
  obtain ⟨⟨⟨⟨hfb,hw⟩,hh⟩,hx⟩,hy⟩ := hsame
  exact ⟨hfb,fun fb => by rw [PlaneState.shows,PlaneState.shows,hw,hh,hx,hy]⟩

lemma Uploaded.carry (hu : h.Uploaded mem old fresh) :
    h.Uploaded mem new (fun p => new.fb == old.fb && fresh p) := by
  intro fb hnew hblob p hp
  obtain ⟨hsame,hfresh⟩ := (Bool.and_eq_true _ _).mp hp
  exact hu fb ((eq_of_beq hsame).symm.trans hnew) hblob p hfresh

/-- A plane that stays as it is, or is not shown. -/
theorem Pictured.carry (hp : h.Pictured mem o old fresh)
    (hsame : h.scanout o = none ∨ new.differs old = false) :
    h.Pictured mem o new (fun p => new.fb == old.fb && fresh p) := by
  rcases hsame with hnone | hsame
  · refine ⟨fun sc hs => ?_,hp.uploaded.carry,fun fb _ hs => ?_⟩
    · cases hnone.symm.trans hs
    · cases hnone.symm.trans hs
  · obtain ⟨hfb,hshows⟩ := differs_eq_false hsame
    refine ⟨fun sc hs => ?_,hp.uploaded.carry,fun fb hnew hs q hq hfresh => ?_⟩
    · obtain ⟨fb,hold,rfl⟩ := hp.scanout sc hs
      exact ⟨fb,hfb.trans hold,(hshows fb).symm⟩
    · rw [hshows fb] at hs hq hfresh ⊢
      exact hp.screen fb (hfb.symm.trans hnew) hs q hq ((Bool.and_eq_true _ _).mp hfresh).2

/-- What an update of the plane does: nothing, the output goes off, or the damage is sent, behind a new scanout
where the plane has changed. -/
theorem primaryPlaneUpdate_cases (o : ℕ) (old new : PlaneState) (active needsModeset : Bool)
    (damage : Option DrmRect) (allocs : PlaneAllocs) {r : List DisplayCmd × Bool}
    (hr : primaryPlaneUpdate o old new active needsModeset damage allocs = r) :
    (r = ([],needsModeset) ∧ ((new.crtc = false ∧ old.crtc = false) ∨
      new.fb.isSome ∧ active = true ∧ damage = none)) ∨
    (∃ width height, r = ([.setScanout o 0 width height 0 0],needsModeset) ∧ (new.fb = none ∨ active = false)) ∨
    ∃ fb rect, new.fb = some fb ∧ active = true ∧ damage = some rect ∧
      ((new.differs old || needsModeset) = true ∧ r =
          (uploadOf fb rect allocs.upload ++
            setPlaneScanout o new fb::resourceFlush fb new.fence rect allocs.flush,false) ∨
        (new.differs old || needsModeset) = false ∧ r =
          (uploadOf fb rect allocs.upload ++ resourceFlush fb new.fence rect allocs.flush,needsModeset)) := by
  subst hr
  unfold primaryPlaneUpdate
  split
  · rename_i hcrtc
    simp only [Bool.and_eq_true,Bool.not_eq_true'] at hcrtc
    exact .inl ⟨rfl,.inl hcrtc⟩
  cases hfb : new.fb with
  | none => exact .inr (.inl ⟨_,_,rfl,.inl rfl⟩)
  | some fb =>
    cases active with
    | false => exact .inr (.inl ⟨_,_,rfl,.inr rfl⟩)
    | true =>
      cases damage with
      | none => exact .inl ⟨rfl,.inr ⟨rfl,rfl,rfl⟩⟩
      | some rect =>
        refine .inr (.inr ⟨fb,rect,rfl,rfl,rfl,?_⟩)
        cases new.differs old || needsModeset with
        | true => exact .inl ⟨rfl,rfl⟩
        | false => exact .inr ⟨rfl,rfl⟩

/-- What the host has in front of an update of the plane. -/
structure Before (h : DisplayHost α) (o : ℕ) (plane : PlaneState) (active needsModeset modeset : Bool) : Prop where
  bound : plane.fb.isSome → plane.crtc = true
  off : active = false → h.scanout o = none
  wait : active = true → plane.fb.isSome → h.scanout o = none → needsModeset = true ∨ modeset = true
  dark : modeset = true → h.scanout o = none

/-- A plane that stays as it is, and is not shown, is due with the next update or behind a modeset. -/
theorem Before.due (hb : h.Before o old active needsModeset c.modeset) (hc : c.Proper info old active)
    (hactive : c.active = true) (hsame : new.differs old = false) (hfb : new.fb.isSome)
    (hnone : h.scanout o = none) : needsModeset = true ∨ c.modeset = true := by
  cases hm : c.modeset with
  | true => exact .inr rfl
  | false =>
    rw [(differs_eq_false hsame).1] at hfb
    rw [← hm]
    exact hb.wait ((hc.switches hm).symm.trans hactive) hfb hnone

lemma sends_eq_false (hno : new.fb = none ∨ c.active = false ∨ c.damage = none) (p : ℕ × ℕ) :
    c.sends new p = false := by
  unfold Commit.sends
  rcases hno with hno | hno | hno <;> rw [hno]
  · split <;> simp
  · split
    · rename_i hsome
      cases hsome
    · rfl

lemma sends_covers (hfb : new.fb = some fb) (hdamage : c.damage = some rect) {p : ℕ × ℕ}
    (hsends : c.sends new p = true) : rect.covers p = true ∧ (!new.fence || c.allocs.flush) = true := by
  unfold Commit.sends at hsends
  rw [hfb,hdamage] at hsends
  simp only [Bool.and_eq_true] at hsends
  exact ⟨hsends.1.1.2,hsends.2⟩

/-- The damage is sent, with a new scanout. -/
theorem Pictured.sendNew (hp : h.Pictured mem o old fresh) (hold : ∀ fb, old.fb = some fb → fb.Plain info)
    (hnew : new.fb = some fb) (hfb : fb.Plain info) (hdamage : c.damage = some rect)
    (hrange : rect.x1*fb.cpp+rect.y1*fb.pitch < 2^32) :
    ((uploadOf fb rect c.allocs.upload ++
      setPlaneScanout o new fb::resourceFlush fb new.fence rect c.allocs.flush).foldl
        (DisplayHost.exec info mem) h).Pictured mem o new
      (fun p => new.fb == old.fb && fresh p || c.sends new p) := by
  have hput := put_pictured (o := o) (hp.uploaded.upload (c := c) hold hnew hfb hdamage hrange) hnew hfb
  rw [List.foldl_append,List.foldl_cons,exec_setPlaneScanout hfb]
  exact hput.flushes hnew hfb hput.uploaded rect new.fence c.allocs.flush fun p hp' => .inl hp'

lemma sendNew_scanout (hfb : fb.Plain info) (cmds : List DisplayCmd) (fence : Bool) (rect : DrmRect)
    (alloc : Bool) :
    ((cmds ++ setPlaneScanout o new fb::resourceFlush fb fence rect alloc).foldl (DisplayHost.exec info mem)
      h).scanout o = some (new.shows fb) := by
  rw [List.foldl_append,List.foldl_cons,exec_setPlaneScanout hfb,resourceFlush_scanout,put_scanout_self]

lemma uploadOf_other (hfb : fb.Plain info) (hrange : rect.x1*fb.cpp+rect.y1*fb.pitch < 2^32) (alloc : Bool) :
    ∀ cmd ∈ uploadOf fb rect alloc, cmd.Plain info ∧ cmd.output ≠ some o := fun cmd hcmd =>
  ⟨(uploadOf_plain hfb hrange alloc cmd hcmd).1,by rw [(uploadOf_plain hfb hrange alloc cmd hcmd).2]; exact nofun⟩

/-- The damage is sent, for the scanout that is there. -/
theorem Pictured.sendDamage (hp : h.Pictured mem o old fresh) (hold : ∀ fb, old.fb = some fb → fb.Plain info)
    (hnew : new.fb = some fb) (hfb : fb.Plain info) (hdamage : c.damage = some rect)
    (hrange : rect.x1*fb.cpp+rect.y1*fb.pitch < 2^32) (hsame : new.differs old = false) :
    ((uploadOf fb rect c.allocs.upload ++ resourceFlush fb new.fence rect c.allocs.flush).foldl
        (DisplayHost.exec info mem) h).Pictured mem o new
      (fun p => new.fb == old.fb && fresh p || c.sends new p) := by
  have hup := hp.uploaded.upload (c := c) hold hnew hfb hdamage hrange
  have hkept : (((uploadOf fb rect c.allocs.upload).foldl (DisplayHost.exec info mem) h)).Pictured mem o new
      (fun p => new.fb == old.fb && fresh p) :=
    (hp.execs hold (uploadOf_other hfb hrange c.allocs.upload)).carry (.inr hsame)
  rw [List.foldl_append]
  exact hkept.flushes hnew hfb hup rect new.fence c.allocs.flush fun p hp' =>
    ((Bool.or_eq_true _ _).mp hp').imp_right (sends_covers hnew hdamage)

lemma sendDamage_scanout (hfb : fb.Plain info) (hrange : rect.x1*fb.cpp+rect.y1*fb.pitch < 2^32)
    (upload fence flush : Bool) :
    ((uploadOf fb rect upload ++ resourceFlush fb fence rect flush).foldl (DisplayHost.exec info mem) h).scanout o =
      h.scanout o := by
  rw [List.foldl_append,resourceFlush_scanout,
    execs_scanout fun cmd hcmd => (uploadOf_other hfb hrange upload cmd hcmd).2]

/-- After the update the plane is pictured, and not off without need. -/
theorem Pictured.update (hp : h.Pictured mem o old fresh) (hold : ∀ fb, old.fb = some fb → fb.Plain info)
    (hb : h.Before o old active needsModeset c.modeset) (hc : c.Proper info old active) (hnew : c.plane = some new)
    {r : List DisplayCmd × Bool}
    (hr : primaryPlaneUpdate o old new c.active needsModeset c.damage c.allocs = r) :
    (r.1.foldl (DisplayHost.exec info mem) h).Pictured mem o new
        (fun p => new.fb == old.fb && fresh p || c.sends new p) ∧
      (c.active = false → (r.1.foldl (DisplayHost.exec info mem) h).scanout o = none) ∧
      (c.active = true → new.fb.isSome → (r.1.foldl (DisplayHost.exec info mem) h).scanout o = none →
        r.2 = true ∨ c.modeset = true) := by
  have hquiet : (∀ p, c.sends new p = false) →
      (fun p => new.fb == old.fb && fresh p || c.sends new p) = fun p => new.fb == old.fb && fresh p := fun hno => by
    funext p
    rw [hno p,Bool.or_false]
  rcases primaryPlaneUpdate_cases o old new c.active needsModeset c.damage c.allocs hr with
    ⟨rfl,hcrtc | ⟨hfb,hactive,hdamage⟩⟩ | ⟨width,height,rfl,hoff⟩ | ⟨fb,rect,hfb,hactive,hdamage,hchange⟩
  · -- no CRTC, and so no framebuffer
    have hnone : h.scanout o = none := by
      cases hs : h.scanout o with
      | none => rfl
      | some sc =>
        obtain ⟨fb,hfb,-⟩ := hp.scanout sc hs
        have hbound := hb.bound (by rw [hfb]; rfl)
        rw [hcrtc.2] at hbound
        cases hbound
    have hfb : new.fb = none := by
      cases hfb : new.fb with
      | none => rfl
      | some fb =>
        have hbound := hc.bound new hnew (by rw [hfb]; rfl)
        rw [hcrtc.1] at hbound
        cases hbound
    rw [hquiet (sends_eq_false (.inl hfb))]
    refine ⟨hp.carry (.inl hnone),fun _ => hnone,fun _ hsome => ?_⟩
    rw [hfb] at hsome
    cases hsome
  · -- no damage: the plane is as it was, or comes with a modeset
    have hvisible : c.modeset = false → ¬new.differs old = true := fun hm hd => by
      have hseen := hc.visible new hnew hm hactive hfb hd
      rw [hdamage] at hseen
      cases hseen
    rw [hquiet (sends_eq_false (.inr (.inr hdamage)))]
    refine ⟨hp.carry ?_,fun hno => ?_,fun _ hsome hnone => ?_⟩
    · cases hm : c.modeset with
      | true => exact .inl (hb.dark hm)
      | false => exact .inr (Bool.eq_false_of_not_eq_true (hvisible hm))
    · rw [hactive] at hno
      cases hno
    · by_cases hm : c.modeset = true
      · exact .inr hm
      · have hsame := Bool.eq_false_of_not_eq_true (hvisible (Bool.eq_false_of_not_eq_true hm))
        exact hb.due hc hactive hsame hsome hnone
  · -- off
    have hgoes : [DisplayCmd.setScanout o 0 width height 0 0].foldl (DisplayHost.exec info mem) h = h.off o := by
      rw [List.foldl_cons,List.foldl_nil,exec_off]
    have hnone := h.off_scanout_self o
    dsimp only
    rw [hquiet (sends_eq_false (hoff.imp_right .inl)),hgoes]
    refine ⟨off_pictured hp.uploaded.carry,fun _ => hnone,fun hactive hsome => ?_⟩
    rcases hoff with hoff | hoff
    · rw [hoff] at hsome
      cases hsome
    · rw [hactive] at hoff
      cases hoff
  · have hplain := hc.plain new fb hnew hfb
    have hrange := hc.inRange new fb rect hnew hfb hdamage
    have hon : c.active ≠ false := by
      rw [hactive]
      exact nofun
    rcases hchange with ⟨-,rfl⟩ | ⟨hsame,rfl⟩
    · -- a new scanout
      refine ⟨hp.sendNew hold hfb hplain hdamage hrange,fun hno => absurd hno hon,fun _ _ hnone => ?_⟩
      cases (sendNew_scanout hplain _ _ _ _).symm.trans hnone
    · -- the damage only
      obtain ⟨hdiffers,-⟩ := Bool.or_eq_false_iff.mp hsame
      refine ⟨hp.sendDamage hold hfb hplain hdamage hrange hdiffers,fun hno => absurd hno hon,fun _ hsome hnone => ?_⟩
      dsimp only at hnone
      rw [sendDamage_scanout hplain hrange] at hnone
      exact hb.due hc hactive hdiffers hsome hnone

end DisplayHost
end GuestAdditions
