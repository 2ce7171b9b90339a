import TokenAcquisition.Proofs.Credential.Sharing
import TokenAcquisition.Proofs.Text.LetterCase

/-!
Whose credential is whose.  A credential belongs to a client, a home account id and an environment,
and is kept under the three of them joined by hyphens.  What is done under one key never touches
what is kept under another.  But hyphens may stand in each of the three too: owners whose home
account ids and environments have as many of them share a key only when they are the same but for
capital letters, while others can share one although they differ.
-/

namespace TokenAcquisition

/-- Whoever a credential belongs to. -/
structure Owner where
  clientId : String
  homeAccountId : String
  environment : String
  deriving DecidableEq

namespace Owner

variable {a b : Owner}

def of (clientId : String) (account : Account) : Owner :=
  { clientId, homeAccountId := account.homeAccountId, environment := account.environment }

def key (owner : Owner) : String :=
  Credential.key owner.clientId owner.homeAccountId owner.environment

/-- The parts of both are the same but for capital letters. -/
def Same (a b : Owner) : Prop :=
  Text.sameIgnoringCase a.clientId b.clientId = true ∧
    Text.sameIgnoringCase a.homeAccountId b.homeAccountId = true ∧
    Text.sameIgnoringCase a.environment b.environment = true

instance : Decidable (a.Same b) :=
  inferInstanceAs (Decidable (_ ∧ _ ∧ _))

/-- How many hyphens are in the home account id and in the environment. -/
def hyphens (owner : Owner) : Nat × Nat :=
  (owner.homeAccountId.toList.count '-', owner.environment.toList.count '-')

theorem eq_of_append_cons {separator : Char} {first second rest rest' : List Char}
    (joined : first ++ separator :: rest = second ++ separator :: rest')
    (counts : first.count separator = second.count separator) :
    first = second ∧ rest = rest' := by
  induction first generalizing second with
  | nil =>
      cases second with
      | nil => exact ⟨rfl, (List.cons.inj joined).2⟩
      | cons c second =>
          obtain ⟨rfl, -⟩ := List.cons.inj joined
          simp at counts
  | cons c first inductionHypothesis =>
      cases second with
      | nil =>
          obtain ⟨rfl, -⟩ := List.cons.inj joined
          simp at counts
      | cons c' second =>
          obtain ⟨rfl, others⟩ := List.cons.inj joined
          have fewer : first.count separator = second.count separator := by
            simpa [List.count_cons] using counts
          obtain ⟨rfl, rest⟩ := inductionHypothesis others fewer
          exact ⟨rfl, rest⟩

theorem count_lowerAscii (s : String) :
    (Text.lowerAscii s).toList.count '-' = s.toList.count '-' := by
  rw [Text.toList_lowerAscii]
  induction s.toList with
  | nil => rfl
  | cons c cs inductionHypothesis =>
      have same : c.toLower = '-' ↔ c = '-' := Text.toLower_eq_iff (by decide)
      simp only [List.map_cons, List.count_cons, inductionHypothesis, beq_iff_eq, same]

theorem toList_key (owner : Owner) :
    owner.key.toList = (Text.lowerAscii owner.homeAccountId).toList ++
      '-' :: ((Text.lowerAscii owner.environment).toList ++
        '-' :: (Text.lowerAscii owner.clientId).toList) := by
  have hyphen : (Text.lowerAscii "-").toList = ['-'] := rfl
  simp only [key, Credential.key, Text.lowerAscii_append, String.toList_append, hyphen,
    List.append_assoc, List.cons_append, List.nil_append]

/-- Owners with hyphens in the same places share a key only when they are the same. -/
theorem key_eq_key_iff (alike : a.hyphens = b.hyphens) : a.key = b.key ↔ a.Same b := by
  obtain ⟨home, environment⟩ := Prod.mk.inj alike
  simp only [Same, Text.sameIgnoringCase_eq_true_iff]
  constructor
  · intro same
    have joined := congrArg String.toList same
    rw [toList_key, toList_key] at joined
    obtain ⟨homes, rest⟩ := eq_of_append_cons joined (by simpa only [count_lowerAscii] using home)
    obtain ⟨environments, clients⟩ :=
      eq_of_append_cons rest (by simpa only [count_lowerAscii] using environment)
    exact ⟨String.toList_inj.mp clients, String.toList_inj.mp homes,
      String.toList_inj.mp environments⟩
  · rintro ⟨clients, homes, environments⟩
    apply String.toList_inj.mp
    rw [toList_key, toList_key, clients, homes, environments]

end Owner

namespace Cache

/-- Whose credential a call is about. -/
def Call.owner : Call → Owner
  | .save clientId c _ => .of clientId c.account
  | .invalidate clientId account => .of clientId account
  | .remove clientId account => .of clientId account

/-- A call leaves alone what is kept under other keys than its own. -/
theorem Call.find?_of_change? {call : Call} {s t : Store} (changed : call.change? s = some t)
    {key : String} (other : key ≠ call.owner.key) :
    t.credentials.find? key = s.credentials.find? key := by
  cases call with
  | save clientId c metadata =>
      have other : key ≠ Credential.keyOf clientId c.account := other
      obtain rfl := Option.some.inj changed
      rw [Store.find?_save, if_neg other]
  | invalidate clientId account =>
      have other : key ≠ Credential.keyOf clientId account := other
      rw [Store.find?_of_invalidate? changed, if_neg other]
  | remove clientId account =>
      have other : key ≠ Credential.keyOf clientId account := other
      rw [Store.find?_of_remove? changed, if_neg other]

theorem Call.find?_made {call : Call} {s : Store} {key : String} (other : key ≠ call.owner.key) :
    (call.made s).credentials.find? key = s.credentials.find? key := by
  rw [Call.made]
  cases changed : call.change? s with
  | none => rfl
  | some t => exact call.find?_of_change? changed other

/-- What becomes of the credentials that are saved under a key: one without a refresh token gets
that of the one it replaces, and tokens are dropped. -/
inductive Stems (saved : Credential → Prop) : Credential → Prop where
  | saved {c} : saved c → Stems saved c
  | keeping {c held} :
      saved c → Stems saved held →
      Stems saved { c with refreshToken := c.refreshToken <|> held.refreshToken }
  | dropped {c} : Stems saved c → Stems saved c.withoutTokens

theorem Stems.mono {saved others : Credential → Prop} (more : ∀ c, saved c → others c)
    {c : Credential} (stems : Stems saved c) : Stems others c := by
  induction stems with
  | saved own => exact .saved (more _ own)
  | keeping own _ inductionHypothesis => exact .keeping (more _ own) inductionHypothesis
  | dropped _ inductionHypothesis => exact .dropped inductionHypothesis

/-- Under the key of a call is what stems from the call and from what was there. -/
theorem Call.stems_of_change? {call : Call} {s t : Store} (changed : call.change? s = some t)
    {saved : Credential → Prop} {key : String} {c : Credential}
    (own : ∀ {clientId c metadata}, call = .save clientId c metadata → key = call.owner.key →
      saved c)
    (before : ∀ {held}, s.credentials.find? key = some held → Stems saved held)
    (found : t.credentials.find? key = some c) : Stems saved c := by
  by_cases other : key = call.owner.key
  · cases call with
    | save clientId new metadata =>
        have isNew := own rfl other
        have other : key = Credential.keyOf clientId new.account := other
        obtain rfl := Option.some.inj changed
        rw [Store.find?_save, if_pos other] at found
        obtain rfl := Option.some.inj found
        cases held : s.get? clientId new.account with
        | none =>
            refine .saved ?_
            simpa using isNew
        | some old => exact .keeping isNew (before (by rw [other, ← held]; rfl))
    | invalidate clientId account =>
        have other : key = Credential.keyOf clientId account := other
        rw [Store.find?_of_invalidate? changed, if_pos other] at found
        obtain ⟨held, isHeld, rfl⟩ := Option.map_eq_some_iff.mp found
        exact .dropped (before (by rw [other, ← isHeld]; rfl))
    | remove clientId account =>
        have other : key = Credential.keyOf clientId account := other
        rw [Store.find?_of_remove? changed, if_pos other] at found
        cases found
  · rw [call.find?_of_change? changed other] at found
    exact before found

namespace Sharing

variable {start s t : Sharing} {trace occurrences : List Occurrence}

/-- The credentials that the file of the beginning holds under a key, and those that calls save
under it. -/
inductive Saved (start s : Sharing) (key : String) : Credential → Prop where
  | loaded {store after c} :
      start.file.load = .ok (store, after) → store.credentials.find? key = some c →
      Saved start s key c
  | called {entry clientId c metadata} :
      entry ∈ s.calls → entry.call = .save clientId c metadata → key = entry.call.owner.key →
      Saved start s key c

/-- Calls stay what they are. -/
theorem Step.exists_call (step : Step s occurrences t) {entry : Underway}
    (member : entry ∈ s.calls) : ∃ later ∈ t.calls, later.call = entry.call := by
  have answered {n : Nat} {call : Call} {told : Answer} (found : s.calls[n]? = some { call }) :
      ∃ later ∈ (s.answer n call told).calls, later.call = entry.call := by
    obtain ⟨m, atM⟩ := List.mem_iff_getElem?.mp member
    by_cases same : n = m
    · subst same
      obtain rfl := Option.some.inj (found.symm.trans atM)
      have inside := (List.getElem?_eq_some_iff.mp found).1
      exact ⟨_, List.mem_of_getElem? (List.getElem?_set_self inside), rfl⟩
    · exact ⟨entry, List.mem_of_getElem? ((List.getElem?_set_ne same).trans atM), rfl⟩
  cases step with
  | call call => exact ⟨entry, List.mem_append_left _ member, rfl⟩
  | skip _ _ found => exact answered found
  | finish _ found => exact answered found
  | fail _ _ found => exact answered found
  | _ => exact ⟨entry, member, rfl⟩

theorem Step.saved (step : Step s occurrences t) {key : String} {c : Credential}
    (saved : Saved start s key c) : Saved start t key c := by
  cases saved with
  | loaded loads found => exact .loaded loads found
  | called member isSave own =>
      obtain ⟨later, member, same⟩ := step.exists_call member
      exact .called member (same.trans isSave) (same ▸ own)

/-- What memory holds under a key stems from what was saved under that key. -/
theorem Run.stems (fresh : start.IsFresh) (run : start.Run trace s) {key : String}
    {c : Credential} (found : s.store.credentials.find? key = some c) :
    Stems (Saved start s key) c := by
  induction run generalizing c with
  | refl =>
      rw [store, fresh.memory] at found
      cases found
  | @step trace s occurrences t run last inductionHypothesis =>
      have more (other : Credential) (saved : Saved start s key other) : Saved start t key other :=
        last.saved saved
      have stays (same : t.store = s.store) : Stems (Saved start t key) c :=
        (inductionHypothesis (same ▸ found)).mono more
      cases last with
      | read unloaded idle loads =>
          have same : s.file = start.file := run.file_eq fresh fun author member => by
            have replaced := (run.attended fresh).unopened unloaded member
            simp [idle] at replaced
          exact .saved (.loaded (same ▸ loads) found)
      | @take n call before changed loaded _ underway isChange =>
          have held : s.store = before := by rw [store, loaded, Option.getD_some]
          refine Call.stems_of_change? isChange (fun isSave own => ?_) (fun isHeld => ?_) found
          · exact .called (List.mem_of_getElem? underway) isSave own
          · exact (inductionHypothesis (held ▸ isHeld)).mono more
      | _ => exact stays rfl

/-- What two owners have to do with one another while a cache is in use. -/
structure Separate (start s : Sharing) (a b : Owner) : Prop where
  keys : a.key ≠ b.key
  /-- A call of the one changes nothing of what is found for the other. -/
  frame : ∀ {n call clientId account t}, s.calls[n]? = some { call } → call.owner = a →
    .of clientId account = b → Step s [.took n] t →
    t.store.get? clientId account = s.store.get? clientId account ∧
      t.store.lookup clientId account = s.store.lookup clientId account
  /-- What is found for the other comes only from what was saved under its own key. -/
  origin : ∀ {clientId account c}, .of clientId account = b →
    s.store.get? clientId account = some c → Stems (Saved start s b.key) c

/-- Owners that differ do not interfere when their hyphens are in the same places. -/
theorem Run.separate {a b : Owner} (fresh : start.IsFresh) (run : start.Run trace s)
    (alike : a.hyphens = b.hyphens) (differ : ¬ a.Same b) : Separate start s a b where
  keys := fun same => differ ((Owner.key_eq_key_iff alike).mp same)
  frame := by
    intro n call clientId account t found own isOther step
    have others : (Owner.of clientId account).key ≠ call.owner.key := by
      rw [own, isOther]
      exact fun same => differ ((Owner.key_eq_key_iff alike).mp same.symm)
    have same : t.store.get? clientId account = s.store.get? clientId account := by
      cases step with
      | take loaded _ underway changed =>
          have same := Option.some.inj (underway.symm.trans found)
          obtain rfl : _ = call := congrArg Underway.call same
          simp only [store, loaded, Option.getD_some]
          exact Call.find?_of_change? changed others
    exact ⟨same, by simp only [Store.lookup, same]⟩
  origin := by
    intro clientId account c isOther found
    exact isOther ▸ run.stems fresh found

/-- Another user of the application whose cache is used in the sample. -/
def otherAccount : Account :=
  { homeAccountId := "v", environment := "e" }

theorem sample_separate :
    ∃ trace s, sample.Run trace s ∧ .wrote (.call 0) ∈ trace ∧
      Separate sample s (.of "app" otherAccount) (.of "app" sampleAccount) := by
  obtain ⟨trace, s, run, -, wrote, -⟩ := exists_run_sample
  exact ⟨trace, s, run, wrote, run.separate sample_isFresh (by decide) (by decide)⟩

end Sharing

/-- An account whose home account id ends in a word with a hyphen before it. -/
def hyphenAccount : Account :=
  { homeAccountId := "uid.tid-login", environment := "windows.net" }

/-- An account whose environment begins with the same word and a hyphen after it. -/
def otherHyphenAccount : Account :=
  { homeAccountId := "uid.tid", environment := "login-windows.net" }

/-- Two owners that differ get at each other's credential, and one can remove that of the other. -/
theorem hyphens_confused :
    ∃ loaded saved removed, Cache.load {} = .ok loaded ∧
      ¬ (Owner.of "client-123" hyphenAccount).Same (.of "client-123" otherHyphenAccount) ∧
      loaded.save "client-123" { account := hyphenAccount } none = (.ok (), saved) ∧
      saved.store.get? "client-123" otherHyphenAccount = some { account := hyphenAccount } ∧
      saved.remove "client-123" otherHyphenAccount = (.ok true, removed) ∧
      removed.store.get? "client-123" hyphenAccount = none := by
  let c : Credential := { account := hyphenAccount }
  let made : Cache := { store := {}, file := CacheFile.holding {} {} }
  have shared : Credential.keyOf "client-123" otherHyphenAccount =
      Credential.keyOf "client-123" hyphenAccount := by decide
  have writable : made.file.IsWritable := ⟨rfl, rfl, nofun, nofun⟩
  have saves := replace_of_isWritable writable (made.store.save "client-123" c none)
  have found :
      (made.store.save "client-123" c none).get? "client-123" otherHyphenAccount = some c := by
    rw [Store.get?, shared]
    exact Store.get?_save made.store "client-123" c none
  obtain ⟨store, removes⟩ : ∃ store,
      (made.store.save "client-123" c none).remove? "client-123" otherHyphenAccount = some store :=
    ⟨_, Store.remove?_eq_some_iff.mpr ⟨by simp [found], rfl⟩⟩
  have gone := Store.find?_of_remove? removes (Credential.keyOf "client-123" hyphenAccount)
  rw [if_pos shared.symm] at gone
  let saved : Cache :=
    { store := made.store.save "client-123" c none,
      file := made.file.holding (made.store.save "client-123" c none) }
  have stillWritable : saved.file.IsWritable := writable.holding _
  have removal := replace_of_isWritable stillWritable store
  refine ⟨made, saved, { store, file := saved.file.holding store }, rfl, by decide, saves, found,
    ?_, gone⟩
  simp only [saved, remove, removes]
  simp only [saved] at removal
  rw [removal]
  rfl

end Cache

end TokenAcquisition
