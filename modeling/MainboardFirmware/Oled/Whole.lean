import MainboardFirmware.Oled.InStep

/-!
# Whole — setting, reading and fading the whole buffer

`ssd1306_set_buffer` and `ssd1306_get_buffer` move the pages to and from a flat buffer.
`ssd1306_fadeout` lights a page up, whatever it showed, and makes it dark from its top row downwards,
page after page; it writes every byte that it sends to the buffer as well.
-/

namespace MainboardFirmware
namespace Oled

/-! ## Setting and getting -/

section SetGet

variable {s : Screen} {buffer : List UInt8}

/-- The first `n` pages are those of the flat buffer, the others those of `f`. -/
def PagesFrom (buffer : List UInt8) (n : ℕ) (f f' : Frame) : Prop :=
  ∀ p c, f'.seg p c = if p < n ∧ c < 128 then buffer.getD (128 * p + c) 0 else f.seg p c

theorem readBytes_ok {index : ℕ} (h : index + 128 ≤ buffer.length) :
    readBytes buffer index = .ok ((buffer.drop index).take 128) :=
  if_pos h

theorem setBuffer_ends (hpages : s.dev.pages ≤ 8) (hlength : 128 * s.dev.pages ≤ buffer.length) :
    Ends (ssd1306SetBuffer buffer s) fun t => ∃ f, t = s.setPage f ∧
      PagesFrom buffer s.dev.pages s.dev.page f := by
  refine Loop.up_zero_ends (fun n (t : Screen) => ∃ f, t = s.setPage f ∧
    PagesFrom buffer n s.dev.page f) ⟨s.dev.page, rfl, fun p c => by simp⟩ ?_
  rintro n t hn ⟨f, rfl, hf⟩
  have hbytes : ((buffer.drop (128 * n)).take 128).length = 128 := by
    simp only [List.length_take, List.length_drop]
    omega
  have hread : readBytes buffer (128 * n) = .ok ((buffer.drop (128 * n)).take 128) :=
    readBytes_ok (by omega)
  have hfit : 0 + ((buffer.drop (128 * n)).take 128).length ≤ 128 := by omega
  have hwrite := @Frame.writeRow_ends f n 0 _ (by omega) hfit
  simp only [hread, Ends.ok_bind]
  refine hwrite.bind fun f' hf' => Ends.ok ⟨f', rfl, fun p c => ?_⟩
  rw [hf', hbytes, hf]
  by_cases hpage : p = n
  · subst hpage
    by_cases hc : c < 128
    · simp [hc, List.getD_eq_getElem?_getD, List.getElem?_drop]
    · simp [hc]
  · have hbefore : p < n + 1 ↔ p < n := by omega
    simp only [hpage, false_and, if_false, hbefore]

/-- The first `n` pages, one after the other. -/
def Frame.flat (f : Frame) (n : ℕ) : List UInt8 :=
  (List.range n).flatMap fun page => (List.range' 0 128).map (f.seg page)

theorem Frame.flat_succ (f : Frame) (n : ℕ) :
    f.flat (n + 1) = f.flat n ++ (List.range' 0 128).map (f.seg n) := by
  rw [flat, List.range_succ, List.flatMap_append, List.flatMap_singleton]
  rfl

theorem Frame.flat_length (f : Frame) (n : ℕ) : (f.flat n).length = 128 * n := by
  induction n with
  | zero =>
      rfl
  | succ n ih =>
      rw [flat_succ, List.length_append, ih, List.length_map, List.length_range']
      omega

theorem Frame.flat_getD (f : Frame) {n p c : ℕ} (hp : p < n) (hc : c < 128) :
    (f.flat n).getD (128 * p + c) 0 = f.seg p c := by
  induction n with
  | zero =>
      omega
  | succ n ih =>
      have hlength := f.flat_length n
      rw [flat_succ]
      by_cases hlast : p < n
      · rw [List.getD_append _ _ _ _ (by omega), ih hlast]
      · have heq : p = n := by omega
        subst heq
        rw [List.getD_append_right _ _ _ _ (by omega), hlength, Nat.add_sub_cancel_left]
        simp [List.getD_eq_getElem?_getD, hc]

/-- Pages that come from a flat buffer go back to it. -/
theorem PagesFrom.flat_eq {n : ℕ} {f f' : Frame} (h : PagesFrom buffer n f f')
    (hlength : 128 * n ≤ buffer.length) : f'.flat n = buffer.take (128 * n) := by
  apply List.ext_getElem
  · rw [f'.flat_length, List.length_take, Nat.min_eq_left hlength]
  · intro i hi hi'
    have hi₁ : i < 128 * n := by
      rwa [f'.flat_length] at hi
    have hindex : 128 * (i / 128) + i % 128 = i := Nat.div_add_mod i 128
    have hpage : i / 128 < n := by omega
    have hcol : i % 128 < 128 := Nat.mod_lt i (by omega)
    have hseg := h (i / 128) (i % 128)
    rw [if_pos ⟨hpage, hcol⟩, ← f'.flat_getD hpage hcol, hindex] at hseg
    rw [List.getElem_take, ← List.getD_eq_getElem _ 0 hi, hseg,
      List.getD_eq_getElem _ 0 (by omega)]

theorem getBuffer_eq {dev : Ssd1306Dev} (hpages : dev.pages ≤ 8) :
    ssd1306GetBuffer dev = .ok (dev.page.flat dev.pages) := by
  have hloop : Ends (ssd1306GetBuffer dev) fun buffer => buffer = dev.page.flat dev.pages := by
    refine Loop.up_zero_ends (fun n (buffer : List UInt8) => buffer = dev.page.flat n) rfl ?_
    rintro n buffer hn rfl
    rw [Frame.readRow_ok (by omega) (by omega), Frame.flat_succ]
    exact Ends.ok rfl
  rcases hloop with ⟨buffer, hrun, rfl⟩
  exact hrun

/-- For every device and every buffer that is long enough: what was set is what is got, page for page,
the pages the panel does not have are kept, and no call is made. And what is got from one device and
set on another with as many pages makes the pages of the two equal. -/
theorem buffer_round_trip (s u : Screen) (hpages : s.dev.pages ≤ 8) (hsame : u.dev.pages = s.dev.pages)
    (buffer : List UInt8) (hlength : 128 * s.dev.pages ≤ buffer.length) :
    (Ends (ssd1306SetBuffer buffer s) fun t => t.calls = s.calls ∧
        ssd1306GetBuffer t.dev = .ok (buffer.take (128 * s.dev.pages)) ∧
        ∀ p ≥ s.dev.pages, ∀ c, t.dev.page.seg p c = s.dev.page.seg p c) ∧
      Ends (ssd1306GetBuffer s.dev) fun bytes => Ends (ssd1306SetBuffer bytes u) fun t =>
        ∀ p c, t.dev.page.seg p c =
          if p < s.dev.pages then s.dev.page.seg p c else u.dev.page.seg p c := by
  constructor
  · refine (setBuffer_ends hpages hlength).mono fun t ht => ?_
    rcases ht with ⟨f, rfl, hf⟩
    have hget : ssd1306GetBuffer (s.setPage f).dev = .ok (f.flat s.dev.pages) := getBuffer_eq hpages
    refine ⟨rfl, hget.trans (by rw [hf.flat_eq hlength]), fun p hp c => ?_⟩
    exact (hf p c).trans (if_neg fun h => absurd h.1 (Nat.not_lt.2 hp))
  · refine ⟨_, getBuffer_eq hpages, ?_⟩
    have hflat : 128 * u.dev.pages ≤ (s.dev.page.flat s.dev.pages).length := by
      rw [Frame.flat_length, hsame]
    refine (setBuffer_ends (by omega) hflat).mono fun t ht p c => ?_
    rcases ht with ⟨f, rfl, hf⟩
    refine (hf p c).trans ?_
    rw [hsame]
    by_cases hp : p < s.dev.pages
    · by_cases hc : c < 128
      · rw [if_pos ⟨hp, hc⟩, if_pos hp, Frame.flat_getD _ hp hc]
      · -- there is nothing behind the last segment
        rw [if_neg fun h => hc h.2, if_pos hp, Frame.seg_eq_zero fun h => hc h.2,
          Frame.seg_eq_zero fun h => hc h.2]
    · rw [if_neg fun h => hp h.1, if_neg hp]

/-- The same for one page. -/
theorem page_round_trip (s : Screen) {page : ℕ} (hpage : page < 8) (hlength : 128 ≤ buffer.length) :
    Ends (ssd1306SetPage page buffer s) fun t => t.calls = s.calls ∧
      ssd1306GetPage t.dev page = .ok (buffer.take 128) ∧
      ∀ p ≠ page, ∀ c, t.dev.page.seg p c = s.dev.page.seg p c := by
  have hread : readBytes buffer 0 = .ok (buffer.take 128) := readBytes_ok (by omega)
  have hbytes : (buffer.take 128).length = 128 := by
    rw [List.length_take, Nat.min_eq_left hlength]
  have hwrite := @Frame.writeRow_ends s.dev.page page 0 (buffer.take 128) hpage (by omega)
  unfold ssd1306SetPage
  rw [hread, Ends.ok_bind]
  refine hwrite.bind fun f hf => Ends.ok ⟨rfl, ?_, fun p hp c => ?_⟩
  · have hget : ssd1306GetPage (s.setPage f).dev page = .ok ((List.range' 0 128).map (f.seg page)) :=
      Frame.readRow_ok hpage (by omega)
    rw [hget]
    congr 1
    apply List.ext_getElem
    · simp [hbytes]
    · intro i hi hi'
      have hi₁ : i < 128 := by simpa using hi
      simp [hf, hi₁, hlength, List.getD_eq_getElem?_getD]
  · exact (hf p c).trans (if_neg fun h => hp h.1)

/-- The pages of a blank device, set from a buffer that is longer than they are. -/
theorem buffer_round_trip_long :
    let s : Screen := ⟨Ssd1306Dev.panel128x64, []⟩
    Ends (ssd1306SetBuffer (List.replicate 1030 0x5A) s) fun t =>
      ssd1306GetBuffer t.dev = .ok (List.replicate 1024 0x5A) := by
  intro s
  have hlength : 128 * s.dev.pages ≤ (List.replicate 1030 (0x5A : UInt8)).length := by
    rw [List.length_replicate]
    decide
  refine (buffer_round_trip s s (by decide) rfl _ hlength).1.mono fun t ht => ?_
  rw [ht.2.1, List.take_replicate]
  rfl

end SetGet

/-! ## Fading -/

section Fade

variable {s : Screen} {flip : Bool}

/-- A device that differs in its buffer only, and calls that were added. -/
structure Faded (new : List DisplayCall) (seg : ℕ → ℕ → UInt8) (s t : Screen) : Prop where
  dev_eq : t.dev = { s.dev with page := t.dev.page }
  calls_eq : t.calls = s.calls ++ new
  seg_eq : ∀ p, ∀ c < 128, t.dev.page.seg p c = seg p c

theorem Faded.trans {new new' : List DisplayCall} {seg seg' : ℕ → ℕ → UInt8} {t u : Screen}
    (h : Faded new seg s t) (h' : Faded new' seg' t u) : Faded (new ++ new') seg' s u := by
  refine ⟨?_, ?_, h'.seg_eq⟩
  · rw [h'.dev_eq, h.dev_eq]
  · rw [h'.calls_eq, h.calls_eq, List.append_assoc]

variable {dev : Ssd1306Dev}

theorem Glass.after_append (g : Glass) (new new' : List DisplayCall) :
    g.after dev (new ++ new') = (g.after dev new).after dev new' := by
  rw [Glass.after, List.foldl_append]
  rfl

end Fade

end Oled
end MainboardFirmware
