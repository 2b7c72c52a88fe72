import BuildChronicle.Log.Book

/-!
# Having the log file again

A log book that could be set up can be set up again, whatever was written in between. What
asking for a file takes only depends on the folders that were made, and after a success all
folders on the way to the file are there. Files and their records play no part: a file that
was opened once is opened again.
-/

namespace BuildChronicle

namespace LogFolder

/-- The folder at the end of a path is there and can be entered; its components are given from
the last one back. -/
def Stands (folder : LogFolder) (path : Path) : List String → Prop
  | [] => False
  | last :: above =>
    path.text.utf8ByteSize ≤ longestPath ∧
      ∃ parent, folder.reach (startOf path) above.reverse = .ok parent ∧
        (last = ".." ∨
          last.utf8ByteSize ≤ longestName ∧ folder.hasFolder (parent.down last) = true)

/-- Where more folders were made, more places are folders. -/
theorem hasFolder_mono (folder other : LogFolder) (place : Place)
    (more : folder.made ⊆ other.made) (there : folder.hasFolder place = true) :
    other.hasFolder place = true := by
  simp only [hasFolder, Bool.or_eq_true, List.contains_iff_mem] at there ⊢
  exact there.imp id fun member => more member

/-- Entering succeeds exactly for a step back and for a folder with a name that is not too
long. -/
theorem enter_eq_ok_iff (folder : LogFolder) (place next : Place) (component : String) :
    folder.enter place component = .ok next ↔
      component = ".." ∧ place.up = next ∨
        component ≠ ".." ∧ component.utf8ByteSize ≤ longestName ∧
          folder.hasFolder (place.down component) = true ∧ place.down component = next := by
  by_cases back : component = ".."
  · simp [enter, back]
  · by_cases long : longestName < component.utf8ByteSize
    · have notShort : ¬ component.utf8ByteSize ≤ longestName := Nat.not_le_of_lt long
      simp [enter, back, long, notShort]
    · have short : component.utf8ByteSize ≤ longestName := Nat.le_of_not_lt long
      cases there : folder.hasFolder (place.down component) with
      | true => simp [enter, back, long, short, there]
      | false =>
        simp only [enter, if_neg back, if_neg long, there, Bool.false_eq_true, if_false]
        split <;> simp [back]

/-- What is reached stays within reach when more folders are made. -/
theorem reach_mono (folder other : LogFolder) (start place : Place) (components : List String)
    (more : folder.made ⊆ other.made) (reached : folder.reach start components = .ok place) :
    other.reach start components = .ok place := by
  induction components generalizing start with
  | nil => exact reached
  | cons component rest inductionHypothesis =>
    rw [reach, List.foldlM_cons] at reached ⊢
    cases entered : folder.enter start component with
    | error trouble => rw [entered] at reached; cases reached
    | ok next =>
      have again : other.enter start component = .ok next := by
        rw [enter_eq_ok_iff] at entered ⊢
        exact entered.imp id fun ⟨step, short, there, same⟩ =>
          ⟨step, short, hasFolder_mono folder other _ more there, same⟩
      rw [entered] at reached
      rw [again]
      exact inductionHypothesis next reached

/-- A folder that stands goes on standing when more folders are made. -/
theorem stands_mono (folder other : LogFolder) (path : Path) (components : List String)
    (more : folder.made ⊆ other.made) (stands : folder.Stands path components) :
    other.Stands path components := by
  cases components with
  | nil => exact stands
  | cons last above =>
    obtain ⟨short, parent, reached, entered⟩ := stands
    exact ⟨short, parent, reach_mono folder other _ parent _ more reached,
      entered.imp id fun ⟨brief, there⟩ => ⟨brief, hasFolder_mono folder other _ more there⟩⟩

/-- What making a single folder looks at, in order. -/
theorem makeOne_cons (folder : LogFolder) (path : Path) (last : String) (above : List String) :
    folder.makeOne path (last :: above) =
      if longestPath < path.text.utf8ByteSize then .error .nameTooLong
      else match folder.reach (startOf path) above.reverse with
        | .error trouble => .error trouble
        | .ok parent =>
          if last = ".." then .error .occupied
          else if longestName < last.utf8ByteSize then .error .nameTooLong
          else if folder.hasFolder (parent.down last) || folder.hasFile (parent.down last) then
            .error .occupied
          else .ok { folder with made := parent.down last :: folder.made } := by
  by_cases long : longestPath < path.text.utf8ByteSize
  · simp [makeOne, long, throw, throwThe, MonadExceptOf.throw, bind, Except.bind]
  · cases reached : folder.reach (startOf path) above.reverse with
    | error trouble => simp [makeOne, long, reached, bind, Except.bind]
    | ok parent =>
      simp only [makeOne, if_neg long, reached, throw, throwThe, MonadExceptOf.throw, bind,
        Except.bind, pure, Except.pure]

/-- A folder that stands is not made again, and it is found there. -/
theorem makeOne_stands (folder : LogFolder) (path : Path) (components : List String)
    (same : path.components = components.reverse) (stands : folder.Stands path components) :
    folder.makeOne path components = .error .occupied ∧
      (folder.reach (startOf path) path.components).toBool = true := by
  cases components with
  | nil => exact stands.elim
  | cons last above =>
    obtain ⟨short, parent, reached, entered⟩ := stands
    have fits : ¬ longestPath < path.text.utf8ByteSize := Nat.not_lt_of_le short
    constructor
    · rw [makeOne_cons, if_neg fits, reached]
      by_cases back : last = ".."
      · simp [back]
      · obtain ⟨brief, there⟩ := entered.resolve_left back
        simp [back, Nat.not_lt_of_le brief, there]
    · have arrived : ∃ place, folder.enter parent last = .ok place := by
        by_cases back : last = ".."
        · exact ⟨parent.up, (enter_eq_ok_iff ..).mpr (.inl ⟨back, rfl⟩)⟩
        · obtain ⟨brief, there⟩ := entered.resolve_left back
          exact ⟨parent.down last, (enter_eq_ok_iff ..).mpr (.inr ⟨back, brief, there, rfl⟩)⟩
      obtain ⟨place, arrived⟩ := arrived
      rw [same, List.reverse_cons, reach, List.foldlM_append]
      rw [reach] at reached
      simp [reached, arrived, bind, Except.bind, pure, Except.pure, Except.toBool]

/-- Where a single folder was made, its path and its name are not too long, the folder above it is
reached, and it is new. -/
theorem makeOne_eq_ok (folder made : LogFolder) (path : Path) (components : List String)
    (done : folder.makeOne path components = .ok made) :
    ∃ last above parent, components = last :: above ∧ path.text.utf8ByteSize ≤ longestPath ∧
      folder.reach (startOf path) above.reverse = .ok parent ∧
      last.utf8ByteSize ≤ longestName ∧
      made = { folder with made := parent.down last :: folder.made } := by
  cases components with
  | nil => cases done
  | cons last above =>
    rw [makeOne_cons] at done
    split at done
    · cases done
    rename_i short
    split at done
    · cases done
    rename_i parent reached
    split at done
    · cases done
    split at done
    · cases done
    rename_i brief
    split at done
    · cases done
    exact ⟨last, above, parent, rfl, Nat.le_of_not_lt short, reached, Nat.le_of_not_lt brief,
      (Except.ok.inj done).symm⟩

/-- Where a single folder was made, it stands, and nothing was unmade. -/
theorem stands_of_makeOne (folder made : LogFolder) (path : Path) (components : List String)
    (done : folder.makeOne path components = .ok made) :
    made.Stands path components ∧ folder.made ⊆ made.made := by
  obtain ⟨last, above, parent, rfl, short, reached, brief, rfl⟩ :=
    makeOne_eq_ok folder made path components done
  have more : folder.made ⊆ parent.down last :: folder.made := List.subset_cons_self _ _
  exact ⟨⟨short, parent, reach_mono folder _ _ parent _ more reached,
    .inr ⟨brief, by simp [hasFolder]⟩⟩, more⟩

/-- Where a single folder was in the way of its making and is found there, it stands. -/
theorem stands_of_occupied (folder : LogFolder) (path : Path) (components : List String)
    (same : path.components = components.reverse)
    (occupied : folder.makeOne path components = .error .occupied)
    (found : (folder.reach (startOf path) path.components).toBool = true)
    (nonempty : components ≠ []) : folder.Stands path components := by
  cases components with
  | nil => exact (nonempty rfl).elim
  | cons last above =>
    have short : path.text.utf8ByteSize ≤ longestPath := by
      rcases Nat.lt_or_ge longestPath path.text.utf8ByteSize with long | short
      · rw [makeOne_cons, if_pos long] at occupied
        cases occupied
      · exact short
    rw [same, List.reverse_cons, reach, List.foldlM_append] at found
    cases reached : folder.reach (startOf path) above.reverse with
    | error trouble =>
      rw [reach] at reached
      simp [reached, bind, Except.bind, Except.toBool] at found
    | ok parent =>
      refine ⟨short, parent, reached, ?_⟩
      rw [reach] at reached
      cases entered : folder.enter parent last with
      | error trouble => simp [reached, entered, bind, Except.bind, Except.toBool] at found
      | ok place =>
        rcases (enter_eq_ok_iff ..).mp entered with ⟨back, _⟩ | ⟨_, brief, there, _⟩
        · exact .inl back
        · exact .inr ⟨brief, there⟩

/-- A folder that was settled stands, and nothing was unmade. -/
theorem stands_of_settle (folder settled : LogFolder) (path : Path) (components : List String)
    (same : path.components = components.reverse) (nonempty : components ≠ [])
    (done : folder.settle path (folder.makeOne path components) = (settled, .ok ())) :
    settled.Stands path components ∧ folder.made ⊆ settled.made := by
  cases outcome : folder.makeOne path components with
  | ok made =>
    rw [outcome] at done
    have same : made = settled := (Prod.mk.inj done).1
    subst same
    exact stands_of_makeOne folder made path components outcome
  | error trouble =>
    rw [outcome, settle] at done
    split at done
    · rename_i found
      obtain ⟨rfl, found⟩ := found
      have same' : folder = settled := (Prod.mk.inj done).1
      subst same'
      exact ⟨stands_of_occupied folder path components same outcome found nonempty, by simp⟩
    · cases done

/-- Where a folder and the folders above it were made, it stands. -/
theorem stands_of_make (origin : Origin) (folder made : LogFolder) (components : List String)
    (nonempty : components ≠ []) (done : make origin folder components = (made, .ok ())) :
    made.Stands ⟨origin, components.reverse⟩ components := by
  cases components with
  | nil => exact (nonempty rfl).elim
  | cons last above =>
    rw [make] at done
    split at done
    · split at done
      · cases done
      · exact (stands_of_settle _ made _ _ rfl nonempty done).1
    · exact (stands_of_settle folder made _ _ rfl nonempty done).1

/-- A folder that stands is as good as made, and making it again changes nothing. -/
theorem make_stands (origin : Origin) (folder : LogFolder) (components : List String)
    (stands : folder.Stands ⟨origin, components.reverse⟩ components) :
    make origin folder components = (folder, .ok ()) := by
  cases components with
  | nil => exact stands.elim
  | cons last above =>
    obtain ⟨occupied, found⟩ := makeOne_stands folder _ (last :: above) rfl stands
    simp only [make, occupied, settle, found, and_self, if_true]

/-- The components of the folder that a file is asked for in, from the last one back. -/
def above (path : Path) : List String := path.components.reverse.drop 1

/-- Everything that asking for a file takes is there. -/
structure Ready (folder : LogFolder) (path : Path) : Prop where
  /-- The folder can have its name. -/
  nameable : (above path).any (fun component => component.toList.contains '\x00') = false
  /-- The folder stands, unless the path is a bare name. -/
  stands : above path ≠ [] → folder.Stands ⟨path.origin, (above path).reverse⟩ (above path)
  /-- The file can stand in it. -/
  admitted : folder.admits path = true

/-- Only the folders that were made count for being ready. -/
theorem ready_of_made (folder other : LogFolder) (path : Path)
    (same : other.made = folder.made) (ready : folder.Ready path) : other.Ready path := by
  refine ⟨ready.nameable, ?_, ?_⟩
  · intro nonempty
    exact stands_mono folder other _ _ (by simp [same]) (ready.stands nonempty)
  · simpa [admits, hasFolder, same] using ready.admitted

/-- Opening a file makes no folder. -/
theorem made_openFile (folder : LogFolder) (path : Path) :
    (folder.openFile path).1.made = folder.made := by
  rw [openFile]
  split
  · dsimp only
    split <;> rfl
  · rfl

/-- A file that was had can be had again. -/
theorem ready_of_request (folder : LogFolder) (path : Path) (place : Place)
    (done : (folder.request path).2 = .ok place) : (folder.request path).1.Ready path := by
  rw [request] at done ⊢
  split at done
  · cases done
  rename_i nameable
  rw [if_neg nameable]
  split at done
  · cases done
  rename_i made making
  have admitted : made.admits path = true := by
    cases possible : made.admits path with
    | true => rfl
    | false => simp [openFile, possible] at done
  apply ready_of_made made _ path (made_openFile made path)
  refine ⟨Bool.eq_false_iff.mpr nameable, ?_, admitted⟩
  intro nonempty
  exact stands_of_make path.origin folder made _ nonempty making

/-- Where everything is there, the file is had and no folder is made. -/
theorem request_ready (folder : LogFolder) (path : Path) (ready : folder.Ready path) :
    (folder.request path).2 = .ok (placeOf path) ∧
      (folder.request path).1.made = folder.made := by
  have making : make path.origin folder (above path) = (folder, .ok ()) := by
    cases steps : above path with
    | nil => rfl
    | cons last rest =>
      rw [← steps]
      exact make_stands path.origin folder (above path)
        (ready.stands (by simp [steps]))
  have requested : folder.request path = folder.openFile path := by
    rw [request]
    have nameable := ready.nameable
    rw [above] at making nameable
    rw [if_neg (Bool.eq_false_iff.mp nameable), making]
  rw [requested]
  exact ⟨by simp [openFile, ready.admitted], made_openFile folder path⟩

end LogFolder

namespace LogBook

/-- The file that settings ask for can be had, if they ask for one. -/
def CanSetUp (book : LogBook) (settings : Settings) : Prop :=
  ∀ path, askedFile settings = some path → book.folder.Ready path

/-- A book that was set up can be set up again. -/
theorem canSetUp_of_setUp (book : LogBook) (settings : Settings)
    (done : (book.setUp settings).2 = .ok ()) : (book.setUp settings).1.CanSetUp settings := by
  intro path asked
  rw [setUp, asked] at done ⊢
  dsimp only at done ⊢
  cases requested : book.folder.request path with
  | mk folder outcome =>
    cases outcome with
    | error error => simp [requested] at done
    | ok place =>
      have ready := LogFolder.ready_of_request book.folder path place (by rw [requested])
      rw [requested] at ready
      exact ready

/-- A book that can be set up is set up. -/
theorem setUp_of_canSetUp (book : LogBook) (settings : Settings)
    (possible : book.CanSetUp settings) : (book.setUp settings).2 = .ok () := by
  rw [setUp]
  cases asked : askedFile settings with
  | none => rfl
  | some path =>
    have had := (LogFolder.request_ready book.folder path (possible path asked)).1
    dsimp only
    split
    · rename_i failed
      rw [failed] at had
      cases had
    · rfl

/-- Receiving a record makes no folder. -/
theorem made_receive (book : LogBook) (record : Record) :
    (book.receive record).folder.made = book.folder.made := by
  rw [receive]
  split
  · dsimp only
    split
    · rw [inFile]
      split <;> rfl
    · rfl
  · rfl

/-- What was written does not keep a book from being set up again. -/
theorem canSetUp_receiveAll (book : LogBook) (settings : Settings) (records : List Record)
    (possible : book.CanSetUp settings) : (book.receiveAll records).CanSetUp settings := by
  induction records generalizing book with
  | nil => exact possible
  | cons record rest inductionHypothesis =>
    apply inductionHypothesis
    intro path asked
    exact LogFolder.ready_of_made book.folder _ path (made_receive book record)
      (possible path asked)

end LogBook

end BuildChronicle
