import DagAccess.Logging.Tree

/-!
# What is recorded

Each message that passes the level of its logger is recorded with the tag in force. Work on loggers
is `Quiet` if it records nothing and leaves the tags in force, and it `Tells` under a tag if all
that it records bears this tag. A message tells under the tag in force (`tells_log`); all else that
is done for it is quiet.
-/

namespace DagAccess.Logging.State

variable {tag : String} {s t u : State}

/-! ## Nothing recorded -/

/-- The tags in force are the same, and nothing was recorded. -/
def Quiet (s t : State) : Prop := t.tags = s.tags ∧ t.records = s.records

theorem Quiet.refl (s : State) : Quiet s s := ⟨rfl, rfl⟩

theorem Quiet.trans (first : Quiet s t) (second : Quiet t u) : Quiet s u :=
  ⟨second.1.trans first.1, second.2.trans first.2⟩

theorem quiet_mention (s : State) (name : String) : Quiet s (s.mention name) := by
  unfold mention
  split <;> exact ⟨rfl, rfl⟩

theorem quiet_update (s : State) (name : String) (f : Logger → Logger) :
    Quiet s (s.update name f) := by
  unfold update
  split
  · exact ⟨rfl, rfl⟩
  · exact quiet_mention s name

theorem quiet_print (s : State) (stream : Stream) (text : String) :
    Quiet s (s.print stream text) := by
  cases stream <;> exact ⟨rfl, rfl⟩

theorem quiet_handle (r : Record) (s : State) (id : HandlerId) : Quiet s (handle r s id) := by
  unfold handle
  cases s.handlers[id]? with
  | none => exact .refl s
  | some h =>
    simp only
    split
    · exact .refl s
    · cases line? h r with
      | none => exact .refl s
      | some line => exact quiet_print s h.stream _

theorem quiet_handled (r : Record) (ids : List HandlerId) (s : State) :
    Quiet s (ids.foldl (handle r) s) := by
  induction ids generalizing s with
  | nil => exact .refl s
  | cons id rest ih => exact (quiet_handle r s id).trans (ih _)

/-! ## Records of one tag -/

/-- The tags in force are the same, and what was recorded bears this tag. -/
def Tells (tag : String) (s t : State) : Prop :=
  t.tags = s.tags ∧ ∃ new, t.records = s.records ++ new ∧ ∀ r ∈ new, r.tag = tag

theorem Quiet.tells (quiet : Quiet s t) : Tells tag s t :=
  ⟨quiet.1, [], quiet.2.trans (List.append_nil _).symm, nofun⟩

theorem Tells.trans (first : Tells tag s t) (second : Tells tag t u) : Tells tag s u := by
  obtain ⟨same, new, recorded, tagged⟩ := first
  obtain ⟨same', later, recorded', tagged'⟩ := second
  refine ⟨same'.trans same, new ++ later, by rw [recorded', recorded, List.append_assoc],
    fun r there => ?_⟩
  rcases List.mem_append.mp there with before | after
  · exact tagged r before
  · exact tagged' r after

/-- The tag in force stays in force. -/
theorem Tells.tag_eq (tells : Tells tag s t) : t.tag = s.tag :=
  congrArg (fun tags => tags.head?.getD "") tells.1

/-- A message is recorded at most once, with the tag in force. -/
theorem tells_log (s : State) (n : Notice) : Tells s.tag s (s.log n) := by
  simp only [log]
  generalize (if isRoot n.logger = true then rootName else n.logger) = name
  have mentioned : Tells s.tag s (s.mention name) := (quiet_mention s name).tells
  refine mentioned.trans ?_
  rw [← mentioned.tag_eq]
  generalize s.mention name = s
  split
  · exact (Quiet.refl s).tells
  · have recorded :
        Tells s.tag s { s with records := s.records ++ [⟨n.level, name, n.message, s.tag⟩] } :=
      ⟨rfl, _, rfl, fun r there => by rw [List.mem_singleton.mp there]⟩
    refine recorded.trans (Quiet.tells ?_)
    split
    · split
      · exact .refl _
      · exact quiet_print _ _ _
    · exact quiet_handled _ _ _

end DagAccess.Logging.State
