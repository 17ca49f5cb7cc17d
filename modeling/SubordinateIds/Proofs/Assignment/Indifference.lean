import SubordinateIds.Proofs.Assignment.Congruence
import SubordinateIds.Proofs.Configuration.Trust

/-
  Indifference — files that are not trusted have no say

  One run is made on two machines that differ in the contents of untrusted files. Each of
  its steps does the same on both and leaves machines that again differ in nothing else:
  loading, because the files are dropped before they are read, and every other step,
  because it asks for no file. So everything that the run does and says is the same.
-/

namespace SubordinateIds

namespace Machine.Alike

variable {m m' : Machine}

theorem find (h : m.Alike m') : Identity.find m = Identity.find m' := by
  rw [h.frame]
  rfl

theorem environment (h : m.Alike m') : Tools.environment m = Tools.environment m' := by
  rw [h.frame]
  rfl

theorem run (h : m.Alike m') (p : Path) :
    (m.run p).1 = (m'.run p).1 ∧ (m.run p).2.Alike (m'.run p).2 := by
  obtain ⟨exits, ran⟩ := m.run_frame p
  have starts : m'.startErrors = m.startErrors := by rw [h.frame]
  have queues : m'.exits = m.exits := by rw [h.frame]
  rw [run_eq starts queues, ran]
  refine ⟨rfl, ?_, h.entries⟩
  rw [h.frame]

/-- Nothing that a run asks for tells the machines apart. -/
theorem congruence : Machine.Congruence Machine.Alike where
  find _ _ h := h.find
  loading _ _ h := h.loading
  environment _ _ h := h.environment
  run _ _ h := h.run

end Machine.Alike

namespace Session

/-- Nothing tells the sessions apart but the contents of files that are not trusted. -/
structure Alike (s t : Session) : Prop where
  machine : s.machine.Alike t.machine
  journal : s.journal = t.journal
  opened : s.opened = t.opened
  commands : s.commands = t.commands

theorem alike_eq_matched : Alike = Matched Machine.Alike := by
  funext s t
  refine propext ⟨?_, ?_⟩
  · intro h
    exact ⟨h.machine, h.journal, h.opened, h.commands⟩
  · intro h
    exact ⟨h.machine, h.journal, h.opened, h.commands⟩

end Session

namespace Assignment

theorem lockstep_alike (tools : Tools) (sources : Sources) (dryRun : Bool) :
    Lockstep Session.Alike (fun _ _ => Eq) tools sources dryRun dryRun := by
  rw [Session.alike_eq_matched]
  exact lockstep_matched Machine.Alike.congruence tools sources dryRun

namespace Run

/-- A run comes to the same on machines that are alike: it gives or fails with the same, it
starts the same commands and opens the same paths, and it reports the same. -/
theorem indifferent (r : Run) (m : Machine) (alike : r.machine.Alike m) :
    (r.on m).result = r.result ∧ (r.on m).commands = r.commands ∧
      (r.on m).opened = r.opened ∧ (r.on m).events = r.events := by
  have begun : r.start.Alike (r.on m).start := ⟨alike, rfl, rfl, rfl⟩
  have steps := lockstep_alike r.tools r.sources r.request.dryRun
  obtain ⟨results, left⟩ := steps.run r.request.user r.request.kinds _ _ begun
  have same := (results.mono fun _ _ _ => Report.Together.eq).eq
  refine ⟨same.symm, ?_, ?_, ?_⟩
  · exact congrArg Array.toList left.commands.symm
  · exact congrArg Array.toList left.opened.symm
  · exact congrArg (fun journal => journal.events.toList) left.journal.symm

/-- An office in which anyone may write to the settings. -/
def openOffice (contents : Octets) : Machine := { office with
  entries := .ofList [(Path.ofString "/etc/static-subid.conf",
    .ok (.file ⟨.regular, 0, 0o666⟩ contents))] }

theorem alike_openOffice (contents contents' : Octets) :
    (openOffice contents).Alike (openOffice contents') := by
  refine ⟨rfl, ?_⟩
  intro p
  simp only [Machine.entry, openOffice, PathMap.ofList, List.foldl_cons, List.foldl_nil,
    PathMap.get?_insert]
  split
  · exact .ok (.untrusted (by decide))
  · exact .error _

/-- Someone wants all blocks to be of one id, and the user is given a whole block. -/
theorem indifferent_openOffice :
    let wish := Utf8.encode "SUB_UID_COUNT 1\n".toList
    let r : Run := ⟨openOffice [], .problems, .standard, .standard, ⟨"ann", [.user], true⟩⟩
    r.machine.Alike (openOffice wish) ∧ (r.on (openOffice wish)).result = .ok ⟨⟨"ann", 1000⟩,
      [(.user, .granted (.planned ⟨100000, 65536, by decide, by decide⟩
        "/usr/sbin/usermod --add-subuids 100000-165535 ann"))]⟩ := by
  intro wish r
  have alike := alike_openOffice [] wish
  refine ⟨alike, ?_⟩
  rw [(indifferent r (openOffice wish) alike).1]
  decide +kernel

end Run

end Assignment

end SubordinateIds
