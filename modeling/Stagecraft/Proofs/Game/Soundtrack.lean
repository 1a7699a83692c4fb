import Stagecraft.Proofs.Game.Journal

/-!
Which sounds a game knows. A playlist is what its log of insertions comes to (`Records`), and a
game that runs meets its playlist only where the host adds a sound (`play_audio`). Main statement:
a name leads to the path that was given last under it, and that path lies in the directory of
sounds exactly when it was not given as an absolute one (`insertAll_stays_iff`).
-/

set_option autoImplicit false

namespace Stagecraft

namespace Playlist

def insertAll (p : Playlist) (log : List (String × String)) : Playlist :=
  log.foldl (fun p e => p.insert e.1 e.2) p

theorem insertAll_append (p : Playlist) (log more : List (String × String)) :
    p.insertAll (log ++ more) = (p.insertAll log).insertAll more := List.foldl_append

def lastPath? (log : List (String × String)) (name : String) : Option String :=
  log.reverse.lookup name

theorem lastPath?_concat (log : List (String × String)) (e : String × String) (name : String) :
    lastPath? (log ++ [e]) name = if name = e.1 then some e.2 else lastPath? log name := by
  rw [lastPath?, List.reverse_append, List.reverse_singleton, List.singleton_append,
    List.lookup_cons]
  by_cases h : name = e.1
  · rw [if_pos h, beq_iff_eq.2 h]
  · rw [if_neg h, beq_eq_false_iff_ne.2 h]
    rfl

theorem lastPath?_isSome_iff (log : List (String × String)) (name : String) :
    (lastPath? log name).isSome = true ↔ name ∈ log.map Prod.fst := by
  rw [lastPath?, List.lookup_isSome_iff]
  simp only [List.mem_reverse, List.mem_map, beq_iff_eq]
  exact exists_congr fun e => and_congr_right fun _ => eq_comm

theorem place_eq_iff (path : String) :
    place path = directory ++ "/" ++ path ↔ path.startsWith "/" = false := by
  rw [place]
  split
  · next h =>
    refine iff_of_false (fun he => ?_) (by simp [h])
    have hlen := congrArg String.length he
    rw [String.length_append, String.length_append] at hlen
    have : "/".length = 1 := rfl
    omega
  · next h => simp [h]

theorem startsWith_place_iff (path : String) :
    (place path).startsWith (directory ++ "/") = true ↔ path.startsWith "/" = false := by
  by_cases h : path.startsWith "/" = true
  · refine iff_of_false (fun hd => ?_) (by simp [h])
    -- the two beginnings differ in their first letters
    rw [place, if_pos h] at hd
    obtain ⟨t, ht⟩ := String.startsWith_string_iff.1 h
    obtain ⟨u, hu⟩ := String.startsWith_string_iff.1 hd
    have hhead := congrArg List.head? (ht.trans hu.symm)
    simp [directory] at hhead
  · rw [place, if_neg h, String.startsWith_string_iff]
    exact iff_of_true ⟨path.toList, String.toList_append.symm⟩ (Bool.eq_false_iff.2 h)

/-- `p` is what a log of insertions comes to. -/
structure Records (p : Playlist) (log : List (String × String)) : Prop where
  get?_eq : ∀ name, p.get? name = (lastPath? log name).map place
  size_eq : p.size = (log.map Prod.fst).eraseDups.length

theorem size_insert (p : Playlist) (name path : String) :
    (p.insert name path).size = if (p.get? name).isSome then p.size else p.size + 1 := by
  rw [size, insert, Std.TreeMap.size_insert, Std.TreeMap.contains_eq_isSome_getElem?]
  rfl

theorem mem_toList_iff (p : Playlist) (e : String × String) :
    e ∈ p.toList ↔ p.get? e.1 = some e.2 :=
  Std.TreeMap.mem_toList_iff_getElem?_eq_some

namespace Records

variable {p : Playlist} {log : List (String × String)}

theorem nil : Records {} [] := ⟨fun _ => rfl, rfl⟩

theorem get?_isSome_iff (h : Records p log) (name : String) :
    (p.get? name).isSome = true ↔ name ∈ log.map Prod.fst := by
  rw [h.get?_eq, Option.isSome_map, lastPath?_isSome_iff]

theorem insert (h : Records p log) (e : String × String) :
    Records (p.insert e.1 e.2) (log ++ [e]) where
  get?_eq name := by
    rw [lastPath?_concat]
    split
    · next hn =>
      subst hn
      exact get?_insert_self ..
    · next hn => rw [get?_insert_of_ne p e.2 (Ne.symm hn), h.get?_eq]
  size_eq := by
    rw [size_insert, h.size_eq, List.map_append, List.eraseDups_append, List.length_append]
    by_cases hn : e.1 ∈ log.map Prod.fst
    · rw [if_pos ((h.get?_isSome_iff e.1).2 hn)]
      simp [List.removeAll, hn]
    · rw [if_neg (mt (h.get?_isSome_iff e.1).1 hn)]
      simp [List.removeAll, hn, List.eraseDups_cons]

theorem insertAll (h : Records p log) (more : List (String × String)) :
    Records (p.insertAll more) (log ++ more) := by
  induction more generalizing p log with
  | nil => rwa [List.append_nil]
  | cons e more ih =>
    have hrest := ih (h.insert e)
    rwa [List.append_assoc] at hrest

theorem stays_iff (h : Records p log) :
    (∀ e ∈ p.toList, e.2.startsWith (directory ++ "/") = true) ↔
      ∀ name path, lastPath? log name = some path → path.startsWith "/" = false := by
  constructor
  · intro hall name path hl
    rw [← startsWith_place_iff]
    refine hall (name, place path) ((mem_toList_iff ..).2 ?_)
    rw [h.get?_eq, hl]
    rfl
  · intro hrel e he
    rw [mem_toList_iff, h.get?_eq, Option.map_eq_some_iff] at he
    obtain ⟨path, hl, hp⟩ := he
    rw [← hp, startsWith_place_iff]
    exact hrel e.1 path hl

end Records

end Playlist

namespace Game

variable {κ W σ ν : Type}

def Command.sound? : Command κ W σ ν → Option (String × String)
  | .addAudio name path => some (name, path)
  | _ => none

variable [Actor κ W ν] [Surface σ ν]

theorem perform_audio (k : Command κ W σ ν) (g : Game κ W σ) :
    (k.perform g).state.audio = g.audio.insertAll k.sound?.toList := by
  have hs : (k.perform g).state.audio = k.rescore g.audio :=
    congrArg Prod.snd (perform_backstage k g)
  rw [hs]
  cases k <;> rfl

theorem play_audio (cs : List (Command κ W σ ν)) (g : Game κ W σ) :
    (play g cs).audio = g.audio.insertAll (cs.filterMap Command.sound?) := by
  induction cs generalizing g with
  | nil => rfl
  | cons k cs ih =>
    rw [play, ih, perform_audio, ← Playlist.insertAll_append, List.filterMap_cons]
    cases k.sound? <;> rfl

omit [Actor κ W ν] in
theorem create_audio {s : σ} {w : W} {c : Config} {g : Game κ W σ}
    (h : ((create s w c : Act ν GameError Unit (Game κ W σ)) ()).result = .ok g) :
    g.audio = {} := by
  by_cases hr : 0 < c.tickRate.toNat
  · simp [create, hr, Act.bind_apply] at h
    subst h
    rfl
  · simp [create, hr] at h

/-- However the sounds come into a playlist, one after the other or among all that a host asks of
a new game, only an absolute path leads out of the directory. -/
theorem insertAll_stays_iff (log : List (String × String)) :
    let p := Playlist.insertAll {} log
    let last? := Playlist.lastPath? log
    (∀ name, (p.get? name).isSome = true ↔ name ∈ log.map Prod.fst) ∧
      (∀ name path, last? name = some path → p.get? name = some (Playlist.place path) ∧
        (p.get? name = some (Playlist.directory ++ "/" ++ path) ↔ path.startsWith "/" = false)) ∧
      p.size = (log.map Prod.fst).eraseDups.length ∧
      ((∀ e ∈ p.toList, e.2.startsWith (Playlist.directory ++ "/") = true) ↔
        ∀ name path, last? name = some path → path.startsWith "/" = false) ∧
      ∀ {s : σ} {w : W} {c : Config} {g : Game κ W σ},
        ((create s w c : Act ν GameError Unit (Game κ W σ)) ()).result = .ok g →
        ∀ cs : List (Command κ W σ ν), cs.filterMap Command.sound? = log →
          (play g cs).audio = p := by
  have hrec := Playlist.Records.nil.insertAll log
  refine ⟨hrec.get?_isSome_iff, fun name path hl => ?_, hrec.size_eq, hrec.stays_iff, ?_⟩
  · have hget := (hrec.get?_eq name).trans (congrArg (Option.map Playlist.place) hl)
    refine ⟨hget, ?_⟩
    rw [hget, Option.map_some, Option.some.injEq]
    exact Playlist.place_eq_iff path
  · intro s w c g h cs hcs
    rw [play_audio, create_audio h, hcs]

/-- A sound is replaced while the game runs, and the directory is left by way of its parent. -/
theorem insertAll_stays_iff_rehearsal :
    let log := [("step", "/a.wav"), ("bell", "../b.wav"), ("step", "c/d.wav")]
    let cs : List (Command MemberId Troupe Screen Event) :=
      [.addAudio "step" "/a.wav", .start, .addAudio "bell" "../b.wav", .gesture, .tick,
        .addAudio "step" "c/d.wav"]
    (play rehearsal cs).audio = Playlist.insertAll {} log ∧
      (Playlist.insertAll {} log).get? "step" = some "assets/c/d.wav" ∧
      (Playlist.insertAll {} log).get? "horn" = none ∧ (Playlist.insertAll {} log).size = 2 ∧
      ∀ e ∈ (Playlist.insertAll {} log).toList, e.2.startsWith "assets/" = true := by
  intro log cs
  obtain ⟨hsome, hlast, hsize, hstays, hplay⟩ :=
    insertAll_stays_iff (κ := MemberId) (W := Troupe) (σ := Screen) (ν := Event) log
  refine ⟨hplay rehearsal_created cs rfl, ?_, ?_, hsize, ?_⟩
  · exact (hlast "step" "c/d.wav" rfl).2.2 (by simp)
  · simpa [log] using mt (hsome "horn").1 (by simp [log])
  · refine hstays.2 fun name path hl => ?_
    simp only [Playlist.lastPath?, log, List.reverse_cons, List.reverse_nil, List.nil_append,
      List.cons_append, List.lookup_cons, List.lookup_nil] at hl
    cases hstep : name == "step" <;> cases hbell : name == "bell" <;> rw [hstep, hbell] at hl <;>
      cases hl <;> simp

theorem insertAll_leaves_directory :
    let p := Playlist.insertAll {} [("n", "/etc/x.wav")]
    p.get? "n" = some "/etc/x.wav" ∧
      p.get? "n" ≠ some (Playlist.directory ++ "/" ++ "/etc/x.wav") := by
  decide +kernel

end Game

end Stagecraft
