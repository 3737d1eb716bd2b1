import Mathlib.Order.Defs.Unbundled
import MarkdownOutline.Files.Medium

/-!
# Operations on media

What one operation does to a medium: it uses up a fault, and changes the files as it does on a file
system or fails. Only a write can change them when it fails.
-/

namespace MarkdownOutline.Medium

/-- The files of the second medium come from those of the first by a step, and the faults that are
left are the last ones of the first. -/
structure Leads (step : FileSystem → FileSystem → Prop) (medium medium' : Medium) : Prop where
  files : step medium.files medium'.files
  faults : medium'.faults <:+ medium.faults

namespace Leads

variable {step : FileSystem → FileSystem → Prop} [IsPreorder FileSystem step]
  {medium medium' medium'' : Medium}

theorem refl (medium : Medium) : medium.Leads step medium :=
  ⟨refl_of step medium.files, List.suffix_rfl⟩

theorem trans (h : medium.Leads step medium') (h' : medium'.Leads step medium'') :
    medium.Leads step medium'' :=
  ⟨trans_of step h.files h'.files, h'.faults.trans h.faults⟩

end Leads

variable {step : FileSystem → FileSystem → Prop} {medium : Medium}

theorem leads_next {fs : FileSystem} (h : step medium.files fs) :
    medium.Leads step (medium.next fs) := ⟨h, medium.faults.tail_suffix⟩

theorem leads_look {α : Type} (result : Except FileError α) :
    medium.Leads Eq (medium.look result).2 := by
  unfold look
  split <;> exact leads_next rfl

theorem eq_of_look {α : Type} {result : Except FileError α} {a : α}
    (h : (medium.look result).1 = .ok a) : result = .ok a := by
  unfold look at h
  split at h
  · exact h
  · simp at h

theorem leads_makeFolder {path : Path} (hrefl : step medium.files medium.files)
    (hmake : ∀ fs, medium.files.makeFolder path = .ok fs → step medium.files fs) :
    medium.Leads step (medium.makeFolder path).2 := by
  unfold makeFolder change
  split
  · exact leads_next (hmake _ ‹_›)
  · exact leads_next hrefl
  · exact leads_next hrefl

theorem mem_faults_of_fault? {fault : Fault} (h : medium.fault? = some fault) :
    some fault ∈ medium.faults :=
  List.mem_of_head? (Option.join_eq_some_iff.mp h)

inductive WriteOutcome (medium : Medium) (path : Path) (value : String) :
    Except FileError Unit → FileSystem → Prop
  | done {fs : FileSystem} (hwrite : medium.files.writeText path value = .ok fs) :
      WriteOutcome medium path value (.ok ()) fs
  | refused (cause : FileError) : WriteOutcome medium path value (.error cause) medium.files
  | cutShort {fs : FileSystem} {fault : Fault} {count : Nat} (hfault : some fault ∈ medium.faults)
      (hcount : fault.written? = some count)
      (hwrite : medium.files.writeFile path (.beginning value count) = .ok fs) :
      WriteOutcome medium path value (.error (.other fault.description)) fs

theorem writeOutcome_writeText (medium : Medium) (path : Path) (value : String) :
    WriteOutcome medium path value (medium.writeText path value).1
      (medium.writeText path value).2.files := by
  unfold writeText change
  split
  · exact .done ‹_›
  · exact .refused _
  · rename_i fault _ hfault
    dsimp only [next, Fault.leaves]
    split
    · rename_i hwritten
      obtain ⟨count, hcount, hwrite⟩ := Option.map_eq_some_iff.mp hwritten
      exact .cutShort (mem_faults_of_fault? hfault) hcount hwrite
    · exact .refused _

theorem faults_writeText (medium : Medium) (path : Path) (value : String) :
    (medium.writeText path value).2.faults = medium.faults.tail := by
  unfold writeText change
  split <;> rfl

end MarkdownOutline.Medium
