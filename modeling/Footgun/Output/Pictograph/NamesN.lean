/-! # Names of pictographs: n and o

The names with the code points of what they stand for, in the order of the names. -/

namespace Footgun.Output

/-- Part of `pictographsN` between `nail_care` and `oncoming_taxi`. -/
def pictographsN1 : List (String × List Nat) := [
  ("nail_care", [0x1F485]), ("nail_polish", [0x1F485]),
  ("nail_polish_dark_skin_tone", [0x1F485, 0x1F3FF]),
  ("nail_polish_light_skin_tone", [0x1F485, 0x1F3FB]),
  ("nail_polish_medium-dark_skin_tone", [0x1F485, 0x1F3FE]),
  ("nail_polish_medium-light_skin_tone", [0x1F485, 0x1F3FC]),
  ("nail_polish_medium_skin_tone", [0x1F485, 0x1F3FD]), ("name_badge", [0x1F4DB]),
  ("namibia", [0x1F1F3, 0x1F1E6]), ("national_park", [0x1F3DE]), ("nauru", [0x1F1F3, 0x1F1F7]),
  ("nauseated_face", [0x1F922]), ("nazar_amulet", [0x1F9FF]), ("necktie", [0x1F454]),
  ("negative_squared_cross_mark", [0x274E]), ("nepal", [0x1F1F3, 0x1F1F5]),
  ("nerd_face", [0x1F913]), ("netherlands", [0x1F1F3, 0x1F1F1]), ("neutral_face", [0x1F610]),
  ("new", [0x1F195]), ("new_button", [0x1F195]), ("new_caledonia", [0x1F1F3, 0x1F1E8]),
  ("new_moon", [0x1F311]), ("new_moon_face", [0x1F31A]), ("new_moon_with_face", [0x1F31A]),
  ("new_zealand", [0x1F1F3, 0x1F1FF]), ("newspaper", [0x1F4F0]), ("next_track_button", [0x23ED]),
  ("ng", [0x1F196]), ("ng_button", [0x1F196]), ("nicaragua", [0x1F1F3, 0x1F1EE]),
  ("niger", [0x1F1F3, 0x1F1EA]), ("nigeria", [0x1F1F3, 0x1F1EC]), ("night_with_stars", [0x1F303]),
  ("nine", [0x39, 0xFE0F, 0x20E3]), ("nine-thirty", [0x1F564]), ("nine_o’clock", [0x1F558]),
  ("niue", [0x1F1F3, 0x1F1FA]), ("no_bell", [0x1F515]), ("no_bicycles", [0x1F6B3]),
  ("no_entry", [0x26D4]), ("no_entry_sign", [0x1F6AB]), ("no_good", [0x1F645]),
  ("no_littering", [0x1F6AF]), ("no_mobile_phones", [0x1F4F5]), ("no_mouth", [0x1F636]),
  ("no_one_under_eighteen", [0x1F51E]), ("no_pedestrians", [0x1F6B7]), ("no_smoking", [0x1F6AD]),
  ("non-potable_water", [0x1F6B1]), ("non__potable_water", [0x1F6B1]),
  ("norfolk_island", [0x1F1F3, 0x1F1EB]), ("north_korea", [0x1F1F0, 0x1F1F5]),
  ("northern_mariana_islands", [0x1F1F2, 0x1F1F5]), ("norway", [0x1F1F3, 0x1F1F4]),
  ("nose", [0x1F443]), ("nose_dark_skin_tone", [0x1F443, 0x1F3FF]),
  ("nose_light_skin_tone", [0x1F443, 0x1F3FB]), ("nose_medium-dark_skin_tone", [0x1F443, 0x1F3FE]),
  ("nose_medium-light_skin_tone", [0x1F443, 0x1F3FC]),
  ("nose_medium_skin_tone", [0x1F443, 0x1F3FD]), ("notebook", [0x1F4D3]),
  ("notebook_with_decorative_cover", [0x1F4D4]), ("notes", [0x1F3B6]), ("nut_and_bolt", [0x1F529]),
  ("o", [0x2B55]), ("o2", [0x1F17E]), ("o_button_(blood_type)", [0x1F17E]), ("ocean", [0x1F30A]),
  ("octopus", [0x1F419]), ("oden", [0x1F362]), ("office", [0x1F3E2]),
  ("office_building", [0x1F3E2]), ("ogre", [0x1F479]), ("oil_drum", [0x1F6E2]), ("ok", [0x1F197]),
  ("ok_button", [0x1F197]), ("ok_hand", [0x1F44C]), ("ok_hand_dark_skin_tone", [0x1F44C, 0x1F3FF]),
  ("ok_hand_light_skin_tone", [0x1F44C, 0x1F3FB]),
  ("ok_hand_medium-dark_skin_tone", [0x1F44C, 0x1F3FE]),
  ("ok_hand_medium-light_skin_tone", [0x1F44C, 0x1F3FC]),
  ("ok_hand_medium_skin_tone", [0x1F44C, 0x1F3FD]), ("ok_woman", [0x1F646]), ("old_key", [0x1F5DD]),
  ("old_man", [0x1F474]), ("old_man_dark_skin_tone", [0x1F474, 0x1F3FF]),
  ("old_man_light_skin_tone", [0x1F474, 0x1F3FB]),
  ("old_man_medium-dark_skin_tone", [0x1F474, 0x1F3FE]),
  ("old_man_medium-light_skin_tone", [0x1F474, 0x1F3FC]),
  ("old_man_medium_skin_tone", [0x1F474, 0x1F3FD]), ("old_woman", [0x1F475]),
  ("old_woman_dark_skin_tone", [0x1F475, 0x1F3FF]),
  ("old_woman_light_skin_tone", [0x1F475, 0x1F3FB]),
  ("old_woman_medium-dark_skin_tone", [0x1F475, 0x1F3FE]),
  ("old_woman_medium-light_skin_tone", [0x1F475, 0x1F3FC]),
  ("old_woman_medium_skin_tone", [0x1F475, 0x1F3FD]), ("older_adult", [0x1F9D3]),
  ("older_adult_dark_skin_tone", [0x1F9D3, 0x1F3FF]),
  ("older_adult_light_skin_tone", [0x1F9D3, 0x1F3FB]),
  ("older_adult_medium-dark_skin_tone", [0x1F9D3, 0x1F3FE]),
  ("older_adult_medium-light_skin_tone", [0x1F9D3, 0x1F3FC]),
  ("older_adult_medium_skin_tone", [0x1F9D3, 0x1F3FD]), ("older_man", [0x1F474]),
  ("older_woman", [0x1F475]), ("om", [0x1F549]), ("om_symbol", [0x1F549]),
  ("oman", [0x1F1F4, 0x1F1F2]), ("on", [0x1F51B]), ("on!_arrow", [0x1F51B]),
  ("oncoming_automobile", [0x1F698]), ("oncoming_bus", [0x1F68D]), ("oncoming_fist", [0x1F44A]),
  ("oncoming_fist_dark_skin_tone", [0x1F44A, 0x1F3FF]),
  ("oncoming_fist_light_skin_tone", [0x1F44A, 0x1F3FB]),
  ("oncoming_fist_medium-dark_skin_tone", [0x1F44A, 0x1F3FE]),
  ("oncoming_fist_medium-light_skin_tone", [0x1F44A, 0x1F3FC]),
  ("oncoming_fist_medium_skin_tone", [0x1F44A, 0x1F3FD]), ("oncoming_police_car", [0x1F694]),
  ("oncoming_taxi", [0x1F696])]

/-- Part of `pictographsN` between `one` and `oyster`. -/
def pictographsN2 : List (String × List Nat) := [
  ("one", [0x31, 0xFE0F, 0x20E3]), ("one-piece_swimsuit", [0x1FA71]), ("one-thirty", [0x1F55C]),
  ("one_o’clock", [0x1F550]), ("onion", [0x1F9C5]), ("open_book", [0x1F4D6]),
  ("open_file_folder", [0x1F4C2]), ("open_hands", [0x1F450]),
  ("open_hands_dark_skin_tone", [0x1F450, 0x1F3FF]),
  ("open_hands_light_skin_tone", [0x1F450, 0x1F3FB]),
  ("open_hands_medium-dark_skin_tone", [0x1F450, 0x1F3FE]),
  ("open_hands_medium-light_skin_tone", [0x1F450, 0x1F3FC]),
  ("open_hands_medium_skin_tone", [0x1F450, 0x1F3FD]),
  ("open_mailbox_with_lowered_flag", [0x1F4ED]), ("open_mailbox_with_raised_flag", [0x1F4EC]),
  ("open_mouth", [0x1F62E]), ("ophiuchus", [0x26CE]), ("optical_disk", [0x1F4BF]),
  ("orange_book", [0x1F4D9]), ("orange_circle", [0x1F7E0]), ("orange_heart", [0x1F9E1]),
  ("orange_square", [0x1F7E7]), ("orangutan", [0x1F9A7]), ("orthodox_cross", [0x2626]),
  ("otter", [0x1F9A6]), ("outbox_tray", [0x1F4E4]), ("owl", [0x1F989]), ("ox", [0x1F402]),
  ("oyster", [0x1F9AA])]

/-- The pictographs with these first letters: n and o. -/
def pictographsN : List (String × List Nat) :=
  pictographsN1 ++ pictographsN2

end Footgun.Output
