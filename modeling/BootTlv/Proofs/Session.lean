import BootTlv.Proofs.Compact.Scan
import BootTlv.Proofs.Framing.Whole
import BootTlv.Proofs.Request.Fields
import BootTlv.Proofs.Result
import BootTlv.Proofs.Vendor.RoundTrip
import BootTlv.Session

/-!
# Sessions without entries made by hand

Entries come out of constructors and out of buffers, and each of these takes care of the length
octet in its own way. What they have in common is that the octet counts the value, and this is kept
by every step of a session but one: an entry that is pushed as it is may say anything
(`framed_of_step`). So in a session without such a step the entries can be written at any time, in
either framing, whatever was done to the buffer they were read from (`writable_after`).
-/

namespace BootTlv

/-! ## Entries that can be written -/

/-- Each length octet counts its value, and no way of writing the entries fails. -/
structure Writable (entries : List Entry) : Prop where
  framed : ∀ e ∈ entries, e.Framed
  append : ∀ buffer, ∃ written, Compact.append buffer entries = .ok written
  create : ∃ written, Compact.encode entries = .ok written
  encodeVendor : ∃ written, Vendor.encode entries = .ok written

theorem writable_of_framed {entries : List Entry} (h : ∀ e ∈ entries, e.Framed) :
    Writable entries := by
  have hfault := Entry.findSome?_framingFault?_eq_none_iff.mpr h
  have happend : ∀ buffer, ∃ written, Compact.append buffer entries = .ok written := by
    intro buffer
    rw [Compact.append, hfault]
    exact ⟨_, rfl⟩
  refine ⟨h, happend, happend [], ?_⟩
  rw [Vendor.encode_eq, hfault]
  exact ⟨_, rfl⟩

/-! ## Entries that were read -/

theorem Catalog.framed_of_mem_parse (catalog : Catalog) (buffer : List UInt8) :
    ∀ e ∈ (catalog.parse buffer).entries, e.Framed := by
  by_cases hcut : (Framing.compact.split buffer).2 = []
  · rw [entries_parse catalog hcut]
    exact Framing.framed_of_mem_split
  · obtain ⟨fault, -, hparse⟩ := catalog.parse_of_cut hcut
    rw [hparse]
    exact List.forall_mem_nil _

theorem Vendor.framed_of_decode {buffer : List UInt8} {entries : List Entry}
    (h : decode buffer = .ok entries) : ∀ e ∈ entries, e.Framed := by
  have hsplit : Framing.vendor.split buffer = (entries, []) := decode_eq_ok_iff.mp h
  have hframed := @Framing.framed_of_mem_split .vendor buffer
  rwa [hsplit] at hframed

theorem Request.framed_of_entries {request : Request} {entries : List Entry}
    (h : request.entries = .ok entries) : ∀ e ∈ entries, e.Framed :=
  (built_of_entries h).framed

/-! ## Steps -/

namespace Session

/-- Whether the step adds an entry as it is. -/
def Step.isPush : Step → Bool
  | .push _ => true
  | _ => false

/-- Whether the step writes the entries to the buffer. -/
def Step.isWrite : Step → Bool
  | .append | .create | .encodeVendor => true
  | _ => false

/-- A step that pushes no entry keeps the entries framed. -/
theorem framed_of_step {session next : Session} {s : Step} {reply : Reply}
    (hpush : s.isPush = false) (h : ∀ e ∈ session.entries, e.Framed)
    (hstep : session.step s = .ok (next, reply)) : ∀ e ∈ next.entries, e.Framed := by
  cases s with
  | push entry => cases hpush
  | construct construction =>
      obtain ⟨entry, hbuild, heq⟩ := Except.map_eq_ok_iff.mp hstep
      cases heq
      have hentry := Entry.Construction.framed_of_build hbuild
      exact List.forall_mem_append.mpr ⟨h, List.forall_mem_singleton.mpr hentry⟩
  | append | create | encodeVendor =>
      obtain ⟨buffer, -, heq⟩ := Except.map_eq_ok_iff.mp hstep
      cases heq
      exact h
  | decodeVendor =>
      obtain ⟨entries, hdecode, heq⟩ := Except.map_eq_ok_iff.mp hstep
      cases heq
      exact Vendor.framed_of_decode hdecode
  | parse catalog =>
      cases hstep
      exact catalog.framed_of_mem_parse session.buffer
  | clear =>
      cases hstep
      exact List.forall_mem_nil _
  | validate | truncate | addOctets | setOctet =>
      cases hstep
      exact h

/-- A step that fails changes nothing, so it keeps the entries framed, too. -/
theorem framed_run {session : Session} {s : Step} (hpush : s.isPush = false)
    (h : ∀ e ∈ session.entries, e.Framed) : ∀ e ∈ (session.run s).1.entries, e.Framed := by
  rw [run]
  cases hstep : session.step s with
  | error fault => exact h
  | ok result => exact framed_of_step hpush h hstep

theorem run_of_isWrite {session : Session} {s : Step} (hwrite : s.isWrite = true)
    (h : Writable session.entries) : ∃ reply, (session.run s).2 = .ok reply := by
  cases s with
  | append =>
      obtain ⟨written, hwritten⟩ := h.append session.buffer
      rw [run, step, hwritten]
      exact ⟨_, rfl⟩
  | create =>
      obtain ⟨written, hwritten⟩ := h.create
      rw [run, step, hwritten]
      exact ⟨_, rfl⟩
  | encodeVendor =>
      obtain ⟨written, hwritten⟩ := h.encodeVendor
      rw [run, step, hwritten]
      exact ⟨_, rfl⟩
  | push | construct | decodeVendor | parse | validate | clear | truncate | addOctets
  | setOctet => cases hwrite

/-! ## Runs -/

/-- The session after some steps, whether they fail or not. -/
def after (session : Session) (steps : List Step) : Session :=
  steps.foldl (fun session s => (session.run s).1) session

theorem framed_after {session : Session} {steps : List Step}
    (hpush : ∀ s ∈ steps, s.isPush = false) (h : ∀ e ∈ session.entries, e.Framed) :
    ∀ e ∈ (session.after steps).entries, e.Framed := by
  induction steps generalizing session with
  | nil => exact h
  | cons s steps ih =>
      rw [List.forall_mem_cons] at hpush
      exact ih hpush.2 (framed_run hpush.1 h)

/-- **What was built or read can be written.** In a session that begins without entries and never
pushes one as it is, the entries can be written after every step, and no step that writes them
fails, whatever the buffer was and whatever happened to it. The same holds of the entries of any
request. -/
theorem writable_after (buffer : List UInt8) (steps : List Step)
    (hpush : ∀ s ∈ steps, s.isPush = false) :
    (∀ done, done <+: steps → Writable (after ⟨[], buffer⟩ done).entries) ∧
    (∀ done s rest, steps = done ++ s :: rest → s.isWrite = true →
      ∃ reply, ((after ⟨[], buffer⟩ done).run s).2 = .ok reply) ∧
    ∀ (request : Request) entries, request.entries = .ok entries → Writable entries := by
  have hdone : ∀ done, done <+: steps → Writable (after ⟨[], buffer⟩ done).entries := by
    intro done hinit
    refine writable_of_framed (framed_after ?_ ?_)
    · exact fun s hs => hpush s (hinit.subset hs)
    · exact List.forall_mem_nil _
  refine ⟨hdone, ?_, ?_⟩
  · intro done s rest hsteps hwrite
    exact run_of_isWrite hwrite (hdone done ⟨s :: rest, hsteps.symm⟩)
  · intro request entries hentries
    exact writable_of_framed (Request.framed_of_entries hentries)

/-- A flag is built and written, the buffer is damaged and read again, and what was read is
written. -/
def damagedSteps : List Step :=
  [.construct (.flag .certSyncRootCa true), .encodeVendor, .setOctet 2 200, .addOctets [0x86],
    .decodeVendor, .truncate 9, .decodeVendor, .create, .parse Catalog.builtin, .append]

theorem writable_after_damage :
    (∀ s ∈ damagedSteps, s.isPush = false) ∧
      (∀ done, done <+: damagedSteps → Writable (after {} done).entries) ∧
      ∃ reply, ((after {} (damagedSteps.take 9)).run .append).2 = .ok reply := by
  have hpush : ∀ s ∈ damagedSteps, s.isPush = false := by
    simp [damagedSteps, Step.isPush]
  obtain ⟨hdone, hwrite, -⟩ := writable_after [] damagedSteps hpush
  exact ⟨hpush, hdone, hwrite _ .append [] rfl rfl⟩

end Session

end BootTlv
