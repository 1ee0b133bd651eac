import SourceReach.Proofs.Running

/-!
# Questions while files change

A finder is asked one question after the other, and files change in between. Its index is built when
a question first needs it and it can be built, and stays (`snapshot?`). So an answer is told by the
question, the files at that time and the files now, whatever else has been asked or changed
(`answer_frozen`).
-/

namespace SourceReach.Finder

/-- What a finder can be asked. -/
inductive Question where
  | find (entry : Text) (base : Option Text) (depth : Option Int)
  | explain (entry : Text) (base : Option Text)
  | entryPath (entry : Text)
  | basePackage (entry : Text)
  | index

/-- What a finder answers. -/
inductive Answer where
  | discovery (d : Discovery)
  | ruleMatches (ms : List RuleMatch)
  | text (t : Text)
  | index (ix : NameIndex)

def ask (f : Finder) (tree : FileTree) : Question → Finding Answer
  | .find entry base depth => .discovery <$> f.find tree entry base depth
  | .explain entry base => .ruleMatches <$> f.explain tree entry base
  | .entryPath entry => .text <$> Finding.ofExcept (f.entryPath tree entry)
  | .basePackage entry => .text <$> Finding.ofExcept (f.basePackage tree entry)
  | .index => .index <$> f.index tree

/-- A finder is asked something, or the files change. -/
inductive Event where
  | ask (q : Question)
  | change (edit : FileTree → FileTree)

/-- The files at some time, and the index if it has been built. -/
structure Moment where
  tree : FileTree
  known : Option NameIndex := none

def answer (f : Finder) (m : Moment) (q : Question) : Except Failure Answer :=
  ((f.ask m.tree q).outcome m.known).1

/-- One event more. -/
def next (f : Finder) (m : Moment) : Event → Moment
  | .ask q => { m with known := ((f.ask m.tree q).outcome m.known).2.1 }
  | .change edit => { m with tree := edit m.tree }

/-- What some events come to, one after the other. -/
def after (f : Finder) (m : Moment) (events : List Event) : Moment := events.foldl f.next m

/-! ## What a history is told by -/

/-- The index of the files as they are. -/
def indexOf (f : Finder) (tree : FileTree) : Except Failure NameIndex :=
  (NameIndex.build tree f.source.place.toText f.project f.extension f.strategy).outcome.1

/-- The entry file and the base package that a question is about. -/
def opening (f : Finder) (tree : FileTree) (entry : Text) (base : Option Text) :
    Except Failure (Text × Text) := do
  let entry ← f.entryPath tree entry
  return (entry, ← f.baseFor tree entry base)

/-- The question comes to need the index: there is an entry file, a base package and a depth to
search. -/
def needsIndex (f : Finder) (tree : FileTree) : Question → Bool
  | .find entry base depth => (f.opening tree entry base).isOk && decide (1 ≤ depth.getD f.maxDepth)
  | .explain entry base => (f.opening tree entry base).isOk
  | .entryPath _ | .basePackage _ => false
  | .index => true

/-- The files after some events. -/
def filesAfter : FileTree → List Event → FileTree
  | tree, [] => tree
  | tree, .ask _ :: events => filesAfter tree events
  | tree, .change edit :: events => filesAfter (edit tree) events

/-- The files as they were at the first question that needed an index which could be built. -/
def snapshot? (f : Finder) : FileTree → List Event → Option FileTree
  | _, [] => none
  | tree, .ask q :: events =>
    if f.needsIndex tree q && (f.indexOf tree).isOk then some tree else f.snapshot? tree events
  | tree, .change edit :: events => f.snapshot? (edit tree) events

/-- What the names of a base package are looked up in when the index is given. -/
def lookingIn (f : Finder) (tree : FileTree) (base : Text) (index : NameIndex) : Extractor :=
  { tree, index, source := f.source, base }

/-- What a run finds when the index, or the failure to build it, is given. -/
def found (f : Finder) (tree : FileTree) (index : Except Failure NameIndex) (entry : Text)
    (base : Option Text)
    (depth : Option Int) : Except Failure Discovery := do
  let (entry, base) ← f.opening tree entry base
  let bound := depth.getD f.maxDepth
  if bound < 1 then throw (.configuration (.depthTooSmall (Text.ofInt bound)))
  let x ← f.lookingIn tree base <$> index
  return { base, closure := ← (x.closure entry bound).outcome.1 }

/-- The matches in a file when the index, or the failure to build it, is given. -/
def matched (f : Finder) (tree : FileTree) (index : Except Failure NameIndex) (entry : Text)
    (base : Option Text) :
    Except Failure (List RuleMatch) := do
  let (entry, base) ← f.opening tree entry base
  let x ← f.lookingIn tree base <$> index
  match ← (x.readSource entry).outcome.1 with
  | none => return []
  | some source => x.explain entry source

/-- The answer to a question when the index, or the failure to build it, is given. -/
def reply (f : Finder) (tree : FileTree) (index : Except Failure NameIndex) :
    Question → Except Failure Answer
  | .find entry base depth => .discovery <$> f.found tree index entry base depth
  | .explain entry base => .ruleMatches <$> f.matched tree index entry base
  | .entryPath entry => .text <$> f.entryPath tree entry
  | .basePackage entry => .text <$> f.basePackage tree entry
  | .index => .index <$> index

/-- The index that a question uses: the known one, or else the one of the files as they are. -/
def used (f : Finder) (m : Moment) : Except Failure NameIndex :=
  match m.known with
  | some ix => .ok ix
  | none => f.indexOf m.tree

variable {f : Finder} {tree tree' : FileTree} {known : Option NameIndex} {m : Moment} {q : Question}
  {ix : NameIndex}
  {events : List Event} {entry e b : Text} {base : Option Text} {depth : Option Int}

/-! ## One question -/

theorem ends_build (f : Finder) (tree : FileTree) :
    (NameIndex.build tree f.source.place.toText f.project f.extension f.strategy).Ends
      (f.indexOf tree) :=
  (NameIndex.settled_build _ _ _ _ _).ends_outcome

theorem ends_used (f : Finder) (m : Moment) :
    (f.index m.tree).Ends m.known (f.used m) (f.used m).toOption := by
  rcases m with ⟨tree, known⟩
  unfold used
  refine (Finding.ends_get known).bind ?_
  cases known with
  | some ix => exact Run.ends_pure ix _
  | none =>
    have hbuild := Finding.ends_ofLogged (f.ends_build tree) none
    dsimp only
    cases hindex : f.indexOf tree with
    | error e =>
      rw [hindex] at hbuild
      exact hbuild.bind_error
    | ok ix =>
      rw [hindex] at hbuild
      exact hbuild.bind ((Finding.ends_set _ _).bind (Run.ends_pure _ _))

theorem opening_eq_ok {opened : Text × Text} :
    f.opening tree entry base = .ok opened ↔
      f.entryPath tree entry = .ok opened.1 ∧ f.baseFor tree opened.1 base = .ok opened.2 := by
  unfold opening
  rw [Except.bind_eq_ok]
  constructor
  · rintro ⟨e, he, h⟩
    obtain ⟨b, hb, h⟩ := Except.bind_eq_ok.1 h
    rw [← Except.pure_eq_ok.1 h]
    exact ⟨he, hb⟩
  · rintro ⟨he, hb⟩
    exact ⟨_, he, Except.bind_eq_ok.2 ⟨_, hb, rfl⟩⟩

theorem found_of_opening (h : f.opening tree entry base = .ok (e, b))
    (index : Except Failure NameIndex) :
    f.found tree index entry base depth =
      if depth.getD f.maxDepth < 1 then
        .error (.configuration (.depthTooSmall (Text.ofInt (depth.getD f.maxDepth))))
      else do
        let x ← f.lookingIn tree b <$> index
        return { base := b, closure := ← (x.closure e (depth.getD f.maxDepth)).outcome.1 } := by
  unfold found
  rw [h]
  show (if depth.getD f.maxDepth < 1 then _ else _) = _
  split_ifs
  · rfl
  · rfl

section Opening

variable {α : Type} {g : Text → Text → Finding α} {known' : Option NameIndex}

theorem ends_of_opening_error {e : Failure} (h : f.opening tree entry base = .error e) :
    (Finding.ofExcept (f.entryPath tree entry) >>= fun entry =>
      Finding.ofExcept (f.baseFor tree entry base) >>= g entry).Ends known (.error e) known := by
  unfold opening at h
  have hentry := Finding.ends_ofExcept (f.entryPath tree entry) known
  generalize f.entryPath tree entry = opened at h hentry ⊢
  cases opened with
  | error e' =>
    obtain rfl := Except.error.inj h
    exact hentry.bind_error
  | ok e' =>
    refine hentry.bind ?_
    have hbase := Finding.ends_ofExcept (f.baseFor tree e' base) known
    change (f.baseFor tree e' base >>= _) = _ at h
    generalize f.baseFor tree e' base = given at h hbase ⊢
    cases given with
    | error e'' =>
      obtain rfl := Except.error.inj h
      exact hbase.bind_error
    | ok b' => exact absurd h nofun

theorem ends_of_opening {r : Except Failure α} (h : f.opening tree entry base = .ok (e, b))
    (hg : (g e b).Ends known r known') :
    (Finding.ofExcept (f.entryPath tree entry) >>= fun entry =>
      Finding.ofExcept (f.baseFor tree entry base) >>= g entry).Ends known r known' := by
  obtain ⟨hentry, hbase⟩ := opening_eq_ok.1 h
  rw [hentry]
  refine (Finding.ends_ofExcept _ _).bind ?_
  rw [hbase]
  exact (Finding.ends_ofExcept _ _).bind hg

end Opening

theorem ends_extractor (f : Finder) (m : Moment) (base : Text) :
    (f.extractor m.tree base).Ends m.known (f.lookingIn m.tree base <$> f.used m)
      (f.used m).toOption :=
  (f.ends_used m).map _

theorem ends_find_found (f : Finder) (m : Moment) (entry : Text) (base : Option Text)
    (depth : Option Int) :
    (f.find m.tree entry base depth).Ends m.known (f.found m.tree (f.used m) entry base depth)
      (if f.needsIndex m.tree (.find entry base depth) then (f.used m).toOption else m.known) := by
  have hneeds : f.needsIndex m.tree (.find entry base depth) =
      ((f.opening m.tree entry base).isOk && decide (1 ≤ depth.getD f.maxDepth)) := rfl
  rw [hneeds]
  unfold find
  cases hopening : f.opening m.tree entry base with
  | error err =>
    unfold found
    rw [hopening]
    exact ends_of_opening_error hopening
  | ok opened =>
    rcases opened with ⟨e, b⟩
    rw [found_of_opening hopening]
    apply ends_of_opening hopening
    show Finding.Ends (if depth.getD f.maxDepth < 1 then _ else _) _ _ _
    by_cases hbound : depth.getD f.maxDepth < 1
    · rw [if_pos hbound, if_pos hbound, decide_eq_false (not_le.2 hbound)]
      exact (Run.ends_throw _ _).bind_error
    · rw [if_neg hbound, if_neg hbound, decide_eq_true (not_lt.1 hbound)]
      -- From here on the index is there or the question has failed, and nothing else changes what
      -- is known.
      refine (Finding.ends_ofLogged (Logged.ends_log _ _) _).bind ?_
      refine (f.ends_extractor m b).bind_kept fun x => ?_
      have hclosure := (x.settled_closure e (depth.getD f.maxDepth)).ends_outcome
      exact (Finding.ends_ofLogged hclosure _).bind_kept fun _ => Run.ends_pure _ _

theorem ends_explain_matched (f : Finder) (m : Moment) (entry : Text) (base : Option Text) :
    (f.explain m.tree entry base).Ends m.known (f.matched m.tree (f.used m) entry base)
      (if f.needsIndex m.tree (.explain entry base) then (f.used m).toOption else m.known) := by
  have hneeds : f.needsIndex m.tree (.explain entry base) =
    (f.opening m.tree entry base).isOk := rfl
  rw [hneeds]
  unfold matched explain
  cases hopening : f.opening m.tree entry base with
  | error err => exact ends_of_opening_error hopening
  | ok opened =>
    rcases opened with ⟨e, b⟩
    refine ends_of_opening hopening ?_
    refine (f.ends_extractor m b).bind_kept fun x => ?_
    refine (Finding.ends_ofLogged (x.settled_readSource e).ends_outcome _).bind_kept
      fun source? => ?_
    cases source? with
    | none => exact Run.ends_pure [] _
    | some source => exact Finding.ends_ofExcept _ _

/-- A question is answered with the index that it uses, and keeps it if it came to need it. -/
theorem ends_ask (f : Finder) (m : Moment) (q : Question) :
    (f.ask m.tree q).Ends m.known (f.reply m.tree (f.used m) q)
      (if f.needsIndex m.tree q then (f.used m).toOption else m.known) := by
  cases q with
  | find entry base depth => exact (f.ends_find_found m entry base depth).map _
  | explain entry base => exact (f.ends_explain_matched m entry base).map _
  | entryPath entry => exact (Finding.ends_ofExcept _ _).map _
  | basePackage entry => exact (Finding.ends_ofExcept _ _).map _
  | index => exact (f.ends_used m).map _

theorem answer_eq (f : Finder) (m : Moment) (q : Question) :
    f.answer m q = f.reply m.tree (f.used m) q :=
  (f.ends_ask m q).outcome.1

theorem next_ask (f : Finder) (m : Moment) (q : Question) :
    f.next m (.ask q) =
      { m with known := if f.needsIndex m.tree q then (f.used m).toOption else m.known } := by
  rw [next, (f.ends_ask m q).outcome.2]

/-- What does not come to need the index is answered without it. -/
theorem reply_of_not_needsIndex (h : f.needsIndex tree q = false)
    (index index' : Except Failure NameIndex) :
    f.reply tree index q = f.reply tree index' q := by
  cases q with
  | find entry base depth =>
    have hfound : f.found tree index entry base depth = f.found tree index' entry base depth := by
      change ((f.opening tree entry base).isOk && decide (1 ≤ depth.getD f.maxDepth)) = false at h
      cases hopening : f.opening tree entry base with
      | error e =>
        unfold found
        rw [hopening]
        rfl
      | ok opened =>
        rw [hopening] at h
        have hbound : depth.getD f.maxDepth < 1 := not_le.1 (of_decide_eq_false h)
        rw [found_of_opening hopening, found_of_opening hopening, if_pos hbound, if_pos hbound]
    rw [reply, reply, hfound]
  | explain entry base =>
    have hmatched : f.matched tree index entry base = f.matched tree index' entry base := by
      change (f.opening tree entry base).isOk = false at h
      unfold matched
      cases hopening : f.opening tree entry base with
      | error e => rfl
      | ok opened =>
        rw [hopening] at h
        exact absurd h nofun
    rw [reply, reply, hmatched]
  | entryPath entry => rfl
  | basePackage entry => rfl
  | index => exact absurd h nofun

theorem reply_error (h : f.needsIndex tree q = true) (e : Failure) :
    f.reply tree (.error e) q = .error e := by
  cases q with
  | find entry base depth =>
    change ((f.opening tree entry base).isOk && decide (1 ≤ depth.getD f.maxDepth)) = true at h
    rw [Bool.and_eq_true] at h
    have hfound : f.found tree (.error e) entry base depth = .error e := by
      cases hopening : f.opening tree entry base with
      | error e' =>
        rw [hopening] at h
        exact absurd h.1 nofun
      | ok opened =>
        have hbound : ¬ depth.getD f.maxDepth < 1 := not_lt.2 (of_decide_eq_true h.2)
        rw [found_of_opening hopening, if_neg hbound]
        rfl
    rw [reply, hfound]
    rfl
  | explain entry base =>
    change (f.opening tree entry base).isOk = true at h
    have hmatched : f.matched tree (.error e) entry base = .error e := by
      unfold matched
      cases hopening : f.opening tree entry base with
      | error e' =>
        rw [hopening] at h
        exact absurd h nofun
      | ok opened => rfl
    rw [reply, hmatched]
    rfl
  | entryPath entry => exact absurd h nofun
  | basePackage entry => exact absurd h nofun
  | index => rfl

/-! ## Histories -/

theorem known_after_of_some (h : m.known = some ix) (events : List Event) :
    (f.after m events).known = some ix := by
  induction events generalizing m with
  | nil => exact h
  | cons event events ih =>
    apply ih (m := f.next m event)
    cases event with
    | change edit => exact h
    | ask q =>
      have hused : f.used m = .ok ix := by rw [used, h]
      rw [next_ask, hused, h]
      exact ite_self _

theorem tree_after (f : Finder) (m : Moment) (events : List Event) :
    (f.after m events).tree = filesAfter m.tree events := by
  induction events generalizing m with
  | nil => rfl
  | cons event events ih =>
    cases event with
    | ask q => exact ih _
    | change edit => exact ih _

theorem exists_indexOf_of_snapshot (h : f.snapshot? tree events = some tree') :
    ∃ ix, f.indexOf tree' = .ok ix := by
  induction events generalizing tree with
  | nil => exact absurd h nofun
  | cons event events ih =>
    cases event with
    | change edit => exact ih h
    | ask q =>
      rw [snapshot?] at h
      split_ifs at h with hneeds
      · obtain rfl := Option.some.inj h
        cases hindex : f.indexOf tree with
        | error e =>
          rw [hindex, Bool.and_eq_true] at hneeds
          exact absurd hneeds.2 nofun
        | ok ix => exact ⟨ix, rfl⟩
      · exact ih h

/-- The index that is known is the one of the files at the first question that could have it
built. -/
theorem known_after (f : Finder) (tree : FileTree) (events : List Event) :
    (f.after { tree } events).known = (f.snapshot? tree events).bind fun earlier =>
      (f.indexOf earlier).toOption := by
  -- After a first event that has not led to an index, the other events start without one, as the
  -- whole history does.
  induction events generalizing tree with
  | nil => rfl
  | cons event events ih =>
    cases event with
    | change edit => exact ih (edit tree)
    | ask q =>
      change (f.after (f.next { tree } (.ask q)) events).known = _
      have hused : f.used { tree } = f.indexOf tree := rfl
      rw [snapshot?, next_ask, hused]
      dsimp only
      cases hneeds : f.needsIndex tree q with
      | false =>
        rw [if_neg Bool.false_ne_true, Bool.false_and, if_neg Bool.false_ne_true]
        exact ih tree
      | true =>
        rw [if_pos rfl, Bool.true_and]
        cases hindex : f.indexOf tree with
        | error e => exact ih tree
        | ok ix =>
          rw [known_after_of_some rfl]
          show some ix = (f.indexOf tree).toOption
          rw [hindex]
          rfl

/-- A question uses the index of the earlier files, if there is one, or else of the files as they
are. -/
theorem used_after (f : Finder) (tree : FileTree) (events : List Event) :
    f.used (f.after { tree } events) =
      f.indexOf ((f.snapshot? tree events).getD (filesAfter tree events)) := by
  have hknown := f.known_after tree events
  cases hsnapshot : f.snapshot? tree events with
  | none =>
    rw [hsnapshot] at hknown
    rw [used, hknown, tree_after]
    rfl
  | some earlier =>
    obtain ⟨ix, hix⟩ := exists_indexOf_of_snapshot hsnapshot
    rw [hsnapshot, Option.bind_some, hix] at hknown
    rw [used, hknown, Option.getD_some, hix]
    rfl

/-- Whatever a finder is asked and however the files change: once an index has been built, it is the
one of the files as they were then, and stays. Before that, a question that does not come to need
it, or for which it cannot be built, leaves the finder without one, and the next question has the
files as they are by then. An answer is told by the question, the files now and the files when the
index was built, so histories with the same files there have the same answers. -/
theorem answer_frozen (f : Finder) (tree : FileTree) (events : List Event) :
    (∀ earlier, f.snapshot? tree events = some earlier → ∃ ix, f.indexOf earlier = .ok ix ∧
      ∀ more, (f.after { tree } (events ++ more)).known = some ix) ∧
    (f.snapshot? tree events = none → (f.after { tree } events).known = none ∧ ∀ q,
      (f.needsIndex (filesAfter tree events) q = false →
        (∀ index, f.answer (f.after { tree } events) q = f.reply (filesAfter tree events) index q) ∧
        (f.after { tree } (events ++ [.ask q])).known = none) ∧
      (f.needsIndex (filesAfter tree events) q = true →
        (∀ e, f.indexOf (filesAfter tree events) = .error e →
          f.answer (f.after { tree } events) q = .error e ∧
          (f.after { tree } (events ++ [.ask q])).known = none) ∧
        ∀ ix, f.indexOf (filesAfter tree events) = .ok ix →
          (f.after { tree } (events ++ [.ask q])).known = some ix)) ∧
    (∀ q, f.answer (f.after { tree } events) q = f.reply (filesAfter tree events)
      (f.indexOf ((f.snapshot? tree events).getD (filesAfter tree events))) q) ∧
    ∀ tree' events' q, filesAfter tree events = filesAfter tree' events' →
      (f.snapshot? tree events).getD (filesAfter tree events) =
        (f.snapshot? tree' events').getD (filesAfter tree' events') →
      f.answer (f.after { tree } events) q = f.answer (f.after { tree := tree' } events') q := by
  have hanswer : ∀ tree events q, f.answer (f.after { tree } events) q =
    f.reply (filesAfter tree events)
      (f.indexOf ((f.snapshot? tree events).getD (filesAfter tree events))) q := by
    intro tree events q
    rw [answer_eq, used_after, tree_after]
  have happend : ∀ more, f.after { tree } (events ++ more) =
      f.after (f.after { tree } events) more := fun more =>
    List.foldl_append
  have hknown := f.known_after tree events
  refine ⟨fun earlier hearlier => ?_, fun hnone => ?_, hanswer tree events,
    fun tree' events' q hnow hearlier => ?_⟩
  · obtain ⟨ix, hix⟩ := exists_indexOf_of_snapshot hearlier
    refine ⟨ix, hix, fun more => ?_⟩
    rw [happend]
    apply known_after_of_some
    rw [hknown, hearlier, Option.bind_some, hix]
    rfl
  · rw [hnone, Option.bind_none] at hknown
    have hnext : ∀ q, (f.after { tree } (events ++ [.ask q])).known =
        if f.needsIndex (filesAfter tree events) q then
          (f.indexOf (filesAfter tree events)).toOption else none := by
      intro q
      rw [happend]
      show (f.next (f.after { tree } events) (.ask q)).known = _
      rw [next_ask, used_after, hnone, hknown, tree_after]
      rfl
    refine ⟨hknown, fun q => ⟨fun hneeds => ?_, fun hneeds => ?_⟩⟩
    · rw [hnext, hneeds, hanswer]
      exact ⟨reply_of_not_needsIndex hneeds _, rfl⟩
    · rw [hnext, hneeds, hanswer, hnone, Option.getD_none]
      constructor
      · intro e he
        rw [he]
        exact ⟨reply_error hneeds e, rfl⟩
      · intro ix hix
        rw [hix]
        rfl
  · rw [hanswer, hanswer, hearlier, hnow]

/-- Two histories of the sample: in one of them nothing is there at first, so questions fail. In
both of them a file is deleted after the index has been built, and is still found by its simple
name. -/
theorem sample_frozen :
    let delete := Event.change (·.delete ["p".toList, "src".toList, "C.java".toList])
    let question := Question.find "src/A.java".toList (some "q".toList) none
    let early := [.ask .index, delete]
    let late := [.ask question, .ask .index, .change fun _ => sampleTree, .ask question, delete]
    filesAfter sampleTree early = filesAfter {} late ∧
      sample.snapshot? sampleTree early = some sampleTree ∧ sample.snapshot? {} late =
        some sampleTree ∧
      sample.answer (sample.after { tree := sampleTree } early) question =
        sample.answer (sample.after { tree := {} } late) question ∧
      ((sample.found (filesAfter sampleTree early) (sample.indexOf sampleTree) "src/A.java".toList
        (some "q".toList) none).toOption.any fun d => "src/C.java".toList ∈ d.closure.discovered) =
            true := by
  intro delete question early late
  have hearly : sample.snapshot? sampleTree early = some sampleTree :=
    if_pos (by decide +kernel)
  have hfails : sample.needsIndex {} question = false ∧ (sample.indexOf {}).isOk = false := by
    decide +kernel
  have hbuilt : (sample.needsIndex sampleTree question && (sample.indexOf sampleTree).isOk) =
    true := by decide +kernel
  have hlate : sample.snapshot? {} late = some sampleTree := by
    simp only [late, snapshot?, hfails, hbuilt, Bool.and_false, Bool.false_eq_true,
      if_false, if_true]
  refine ⟨rfl, hearly, hlate, ?_, by decide +kernel⟩
  refine (answer_frozen sample sampleTree early).2.2.2 {} late question rfl ?_
  rw [hearly, hlate]
  rfl

end SourceReach.Finder
