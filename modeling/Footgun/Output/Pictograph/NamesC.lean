/-! # Names of pictographs: c to e

The names with the code points of what they stand for, in the order of the names. -/

namespace Footgun.Output

/-- Part of `pictographsC` between `cactus` and `clock7`. -/
def pictographsC1 : List (String × List Nat) := [
  ("cactus", [0x1F335]), ("cake", [0x1F370]), ("calendar", [0x1F4C6]), ("call_me_hand", [0x1F919]),
  ("call_me_hand_dark_skin_tone", [0x1F919, 0x1F3FF]),
  ("call_me_hand_light_skin_tone", [0x1F919, 0x1F3FB]),
  ("call_me_hand_medium-dark_skin_tone", [0x1F919, 0x1F3FE]),
  ("call_me_hand_medium-light_skin_tone", [0x1F919, 0x1F3FC]),
  ("call_me_hand_medium_skin_tone", [0x1F919, 0x1F3FD]), ("calling", [0x1F4F2]),
  ("cambodia", [0x1F1F0, 0x1F1ED]), ("camel", [0x1F42B]), ("camera", [0x1F4F7]),
  ("camera_with_flash", [0x1F4F8]), ("cameroon", [0x1F1E8, 0x1F1F2]), ("camping", [0x1F3D5]),
  ("canada", [0x1F1E8, 0x1F1E6]), ("canary_islands", [0x1F1EE, 0x1F1E8]), ("cancer", [0x264B]),
  ("candle", [0x1F56F]), ("candy", [0x1F36C]), ("canned_food", [0x1F96B]), ("canoe", [0x1F6F6]),
  ("cape_verde", [0x1F1E8, 0x1F1FB]), ("capital_abcd", [0x1F520]), ("capricorn", [0x2651]),
  ("car", [0x1F697]), ("card_file_box", [0x1F5C3]), ("card_index", [0x1F4C7]),
  ("card_index_dividers", [0x1F5C2]), ("caribbean_netherlands", [0x1F1E7, 0x1F1F6]),
  ("carousel_horse", [0x1F3A0]), ("carp_streamer", [0x1F38F]), ("carrot", [0x1F955]),
  ("castle", [0x1F3F0]), ("cat", [0x1F431]), ("cat2", [0x1F408]), ("cat_face", [0x1F431]),
  ("cat_face_with_tears_of_joy", [0x1F639]), ("cat_face_with_wry_smile", [0x1F63C]),
  ("cayman_islands", [0x1F1F0, 0x1F1FE]), ("cd", [0x1F4BF]),
  ("central_african_republic", [0x1F1E8, 0x1F1EB]), ("ceuta_&_melilla", [0x1F1EA, 0x1F1E6]),
  ("chad", [0x1F1F9, 0x1F1E9]), ("chains", [0x26D3]), ("chair", [0x1FA91]), ("chart", [0x1F4B9]),
  ("chart_decreasing", [0x1F4C9]), ("chart_increasing", [0x1F4C8]),
  ("chart_increasing_with_yen", [0x1F4B9]), ("chart_with_downwards_trend", [0x1F4C9]),
  ("chart_with_upwards_trend", [0x1F4C8]), ("checkered_flag", [0x1F3C1]),
  ("cheese_wedge", [0x1F9C0]), ("chequered_flag", [0x1F3C1]), ("cherries", [0x1F352]),
  ("cherry_blossom", [0x1F338]), ("chess_pawn", [0x265F]), ("chestnut", [0x1F330]),
  ("chicken", [0x1F414]), ("child", [0x1F9D2]), ("child_dark_skin_tone", [0x1F9D2, 0x1F3FF]),
  ("child_light_skin_tone", [0x1F9D2, 0x1F3FB]),
  ("child_medium-dark_skin_tone", [0x1F9D2, 0x1F3FE]),
  ("child_medium-light_skin_tone", [0x1F9D2, 0x1F3FC]),
  ("child_medium_skin_tone", [0x1F9D2, 0x1F3FD]), ("children_crossing", [0x1F6B8]),
  ("chile", [0x1F1E8, 0x1F1F1]), ("china", [0x1F1E8, 0x1F1F3]), ("chipmunk", [0x1F43F]),
  ("chocolate_bar", [0x1F36B]), ("chopsticks", [0x1F962]), ("christmas_island", [0x1F1E8, 0x1F1FD]),
  ("christmas_tree", [0x1F384]), ("church", [0x26EA]), ("cigarette", [0x1F6AC]),
  ("cinema", [0x1F3A6]), ("circled_m", [0x24C2]), ("circus_tent", [0x1F3AA]),
  ("city_sunrise", [0x1F307]), ("city_sunset", [0x1F306]), ("cityscape", [0x1F3D9]),
  ("cityscape_at_dusk", [0x1F306]), ("cl", [0x1F191]), ("cl_button", [0x1F191]),
  ("clamp", [0x1F5DC]), ("clap", [0x1F44F]), ("clapper", [0x1F3AC]), ("clapper_board", [0x1F3AC]),
  ("clapping_hands", [0x1F44F]), ("clapping_hands_dark_skin_tone", [0x1F44F, 0x1F3FF]),
  ("clapping_hands_light_skin_tone", [0x1F44F, 0x1F3FB]),
  ("clapping_hands_medium-dark_skin_tone", [0x1F44F, 0x1F3FE]),
  ("clapping_hands_medium-light_skin_tone", [0x1F44F, 0x1F3FC]),
  ("clapping_hands_medium_skin_tone", [0x1F44F, 0x1F3FD]), ("classical_building", [0x1F3DB]),
  ("clinking_beer_mugs", [0x1F37B]), ("clinking_glasses", [0x1F942]), ("clipboard", [0x1F4CB]),
  ("clipperton_island", [0x1F1E8, 0x1F1F5]), ("clock1", [0x1F550]), ("clock10", [0x1F559]),
  ("clock1030", [0x1F565]), ("clock11", [0x1F55A]), ("clock1130", [0x1F566]),
  ("clock12", [0x1F55B]), ("clock1230", [0x1F567]), ("clock130", [0x1F55C]), ("clock2", [0x1F551]),
  ("clock230", [0x1F55D]), ("clock3", [0x1F552]), ("clock330", [0x1F55E]), ("clock4", [0x1F553]),
  ("clock430", [0x1F55F]), ("clock5", [0x1F554]), ("clock530", [0x1F560]), ("clock6", [0x1F555]),
  ("clock630", [0x1F561]), ("clock7", [0x1F556])]

/-- Part of `pictographsC` between `clock730` and `cut_of_meat`. -/
def pictographsC2 : List (String × List Nat) := [
  ("clock730", [0x1F562]), ("clock8", [0x1F557]), ("clock830", [0x1F563]), ("clock9", [0x1F558]),
  ("clock930", [0x1F564]), ("clockwise_vertical_arrows", [0x1F503]), ("closed_book", [0x1F4D5]),
  ("closed_lock_with_key", [0x1F510]), ("closed_mailbox_with_lowered_flag", [0x1F4EA]),
  ("closed_mailbox_with_raised_flag", [0x1F4EB]), ("closed_umbrella", [0x1F302]),
  ("cloud", [0x2601]), ("cloud_with_lightning", [0x1F329]),
  ("cloud_with_lightning_and_rain", [0x26C8]), ("cloud_with_rain", [0x1F327]),
  ("cloud_with_snow", [0x1F328]), ("cloud_with_tornado", [0x1F32A]), ("clown_face", [0x1F921]),
  ("club_suit", [0x2663]), ("clubs", [0x2663]), ("clutch_bag", [0x1F45D]), ("coat", [0x1F9E5]),
  ("cocktail", [0x1F378]), ("cocktail_glass", [0x1F378]), ("coconut", [0x1F965]),
  ("cocos_(keeling)_islands", [0x1F1E8, 0x1F1E8]), ("coffee", [0x2615]), ("coffin", [0x26B0]),
  ("cold_face", [0x1F976]), ("cold_sweat", [0x1F630]), ("collision", [0x1F4A5]),
  ("colombia", [0x1F1E8, 0x1F1F4]), ("comet", [0x2604]), ("comoros", [0x1F1F0, 0x1F1F2]),
  ("compass", [0x1F9ED]), ("compression", [0x1F5DC]), ("computer", [0x1F4BB]),
  ("computer_disk", [0x1F4BD]), ("computer_mouse", [0x1F5B1]), ("confetti_ball", [0x1F38A]),
  ("confounded", [0x1F616]), ("confounded_face", [0x1F616]), ("confused", [0x1F615]),
  ("confused_face", [0x1F615]), ("congo_-_brazzaville", [0x1F1E8, 0x1F1EC]),
  ("congo_-_kinshasa", [0x1F1E8, 0x1F1E9]), ("congratulations", [0x3297]),
  ("construction", [0x1F6A7]), ("construction_worker", [0x1F477]),
  ("construction_worker_dark_skin_tone", [0x1F477, 0x1F3FF]),
  ("construction_worker_light_skin_tone", [0x1F477, 0x1F3FB]),
  ("construction_worker_medium-dark_skin_tone", [0x1F477, 0x1F3FE]),
  ("construction_worker_medium-light_skin_tone", [0x1F477, 0x1F3FC]),
  ("construction_worker_medium_skin_tone", [0x1F477, 0x1F3FD]), ("control_knobs", [0x1F39B]),
  ("convenience_store", [0x1F3EA]), ("cook_islands", [0x1F1E8, 0x1F1F0]),
  ("cooked_rice", [0x1F35A]), ("cookie", [0x1F36A]), ("cooking", [0x1F373]), ("cool", [0x1F192]),
  ("cool_button", [0x1F192]), ("cop", [0x1F46E]), ("copyright", [0xA9]), ("corn", [0x1F33D]),
  ("costa_rica", [0x1F1E8, 0x1F1F7]), ("couch_and_lamp", [0x1F6CB]),
  ("counterclockwise_arrows_button", [0x1F504]), ("couple", [0x1F46B]),
  ("couple_with_heart", [0x1F491]),
  ("couple_with_heart_man_man", [0x1F468, 0x200D, 0x2764, 0xFE0F, 0x200D, 0x1F468]),
  ("couple_with_heart_woman_man", [0x1F469, 0x200D, 0x2764, 0xFE0F, 0x200D, 0x1F468]),
  ("couple_with_heart_woman_woman", [0x1F469, 0x200D, 0x2764, 0xFE0F, 0x200D, 0x1F469]),
  ("couplekiss", [0x1F48F]), ("cow", [0x1F42E]), ("cow2", [0x1F404]), ("cow_face", [0x1F42E]),
  ("cowboy_hat_face", [0x1F920]), ("crab", [0x1F980]), ("crayon", [0x1F58D]),
  ("credit_card", [0x1F4B3]), ("crescent_moon", [0x1F319]), ("cricket", [0x1F997]),
  ("cricket_bat_and_ball", [0x1F3CF]), ("cricket_game", [0x1F3CF]), ("croatia", [0x1F1ED, 0x1F1F7]),
  ("crocodile", [0x1F40A]), ("croissant", [0x1F950]), ("cross_mark", [0x274C]),
  ("cross_mark_button", [0x274E]), ("crossed_fingers", [0x1F91E]),
  ("crossed_fingers_dark_skin_tone", [0x1F91E, 0x1F3FF]),
  ("crossed_fingers_light_skin_tone", [0x1F91E, 0x1F3FB]),
  ("crossed_fingers_medium-dark_skin_tone", [0x1F91E, 0x1F3FE]),
  ("crossed_fingers_medium-light_skin_tone", [0x1F91E, 0x1F3FC]),
  ("crossed_fingers_medium_skin_tone", [0x1F91E, 0x1F3FD]), ("crossed_flags", [0x1F38C]),
  ("crossed_swords", [0x2694]), ("crown", [0x1F451]), ("cry", [0x1F622]),
  ("crying_cat_face", [0x1F63F]), ("crying_face", [0x1F622]), ("crystal_ball", [0x1F52E]),
  ("cuba", [0x1F1E8, 0x1F1FA]), ("cucumber", [0x1F952]), ("cup_with_straw", [0x1F964]),
  ("cupcake", [0x1F9C1]), ("cupid", [0x1F498]), ("curaçao", [0x1F1E8, 0x1F1FC]),
  ("curling_stone", [0x1F94C]), ("curly-haired_man", [0x1F468, 0x200D, 0x1F9B1]),
  ("curly-haired_woman", [0x1F469, 0x200D, 0x1F9B1]), ("curly_hair", [0x1F9B1]),
  ("curly_loop", [0x27B0]), ("currency_exchange", [0x1F4B1]), ("curry", [0x1F35B]),
  ("curry_rice", [0x1F35B]), ("custard", [0x1F36E]), ("customs", [0x1F6C3]),
  ("cut_of_meat", [0x1F969])]

/-- Part of `pictographsC` between `cyclone` and `elf_medium-light_skin_tone`. -/
def pictographsC3 : List (String × List Nat) := [
  ("cyclone", [0x1F300]), ("cyprus", [0x1F1E8, 0x1F1FE]), ("czechia", [0x1F1E8, 0x1F1FF]),
  ("côte_d’ivoire", [0x1F1E8, 0x1F1EE]), ("dagger", [0x1F5E1]), ("dagger_knife", [0x1F5E1]),
  ("dancer", [0x1F483]), ("dancers", [0x1F46F]), ("dango", [0x1F361]),
  ("dark_skin_tone", [0x1F3FF]), ("dark_sunglasses", [0x1F576]), ("dart", [0x1F3AF]),
  ("dash", [0x1F4A8]), ("dashing_away", [0x1F4A8]), ("date", [0x1F4C5]), ("deaf_person", [0x1F9CF]),
  ("deciduous_tree", [0x1F333]), ("deer", [0x1F98C]), ("delivery_truck", [0x1F69A]),
  ("denmark", [0x1F1E9, 0x1F1F0]), ("department_store", [0x1F3EC]), ("derelict_house", [0x1F3DA]),
  ("derelict_house_building", [0x1F3DA]), ("desert", [0x1F3DC]), ("desert_island", [0x1F3DD]),
  ("desktop_computer", [0x1F5A5]), ("detective", [0x1F575]),
  ("detective_dark_skin_tone", [0x1F575, 0x1F3FF]),
  ("detective_light_skin_tone", [0x1F575, 0x1F3FB]),
  ("detective_medium-dark_skin_tone", [0x1F575, 0x1F3FE]),
  ("detective_medium-light_skin_tone", [0x1F575, 0x1F3FC]),
  ("detective_medium_skin_tone", [0x1F575, 0x1F3FD]),
  ("diamond_shape_with_a_dot_inside", [0x1F4A0]), ("diamond_suit", [0x2666]),
  ("diamond_with_a_dot", [0x1F4A0]), ("diamonds", [0x2666]), ("diego_garcia", [0x1F1E9, 0x1F1EC]),
  ("dim_button", [0x1F505]), ("direct_hit", [0x1F3AF]), ("disappointed", [0x1F61E]),
  ("disappointed_face", [0x1F61E]), ("disappointed_relieved", [0x1F625]),
  ("diving_mask", [0x1F93F]), ("diya_lamp", [0x1FA94]), ("dizzy", [0x1F4AB]),
  ("dizzy_face", [0x1F635]), ("djibouti", [0x1F1E9, 0x1F1EF]), ("dna", [0x1F9EC]),
  ("do_not_litter", [0x1F6AF]), ("dog", [0x1F436]), ("dog2", [0x1F415]), ("dog_face", [0x1F436]),
  ("dollar", [0x1F4B5]), ("dollar_banknote", [0x1F4B5]), ("dolls", [0x1F38E]),
  ("dolphin", [0x1F42C]), ("dominica", [0x1F1E9, 0x1F1F2]),
  ("dominican_republic", [0x1F1E9, 0x1F1F4]), ("door", [0x1F6AA]),
  ("dotted_six-pointed_star", [0x1F52F]), ("double_curly_loop", [0x27BF]),
  ("double_exclamation_mark", [0x203C]), ("double_vertical_bar", [0x23F8]), ("doughnut", [0x1F369]),
  ("dove", [0x1F54A]), ("dove_of_peace", [0x1F54A]), ("down-left_arrow", [0x2199]),
  ("down-right_arrow", [0x2198]), ("down_arrow", [0x2B07]), ("downcast_face_with_sweat", [0x1F613]),
  ("downwards_button", [0x1F53D]), ("dragon", [0x1F409]), ("dragon_face", [0x1F432]),
  ("dress", [0x1F457]), ("dromedary_camel", [0x1F42A]), ("drooling_face", [0x1F924]),
  ("drop_of_blood", [0x1FA78]), ("droplet", [0x1F4A7]), ("drum", [0x1F941]), ("duck", [0x1F986]),
  ("dumpling", [0x1F95F]), ("dvd", [0x1F4C0]), ("e-mail", [0x1F4E7]), ("e__mail", [0x1F4E7]),
  ("eagle", [0x1F985]), ("ear", [0x1F442]), ("ear_dark_skin_tone", [0x1F442, 0x1F3FF]),
  ("ear_light_skin_tone", [0x1F442, 0x1F3FB]), ("ear_medium-dark_skin_tone", [0x1F442, 0x1F3FE]),
  ("ear_medium-light_skin_tone", [0x1F442, 0x1F3FC]), ("ear_medium_skin_tone", [0x1F442, 0x1F3FD]),
  ("ear_of_corn", [0x1F33D]), ("ear_of_rice", [0x1F33E]), ("ear_with_hearing_aid", [0x1F9BB]),
  ("earth_africa", [0x1F30D]), ("earth_americas", [0x1F30E]), ("earth_asia", [0x1F30F]),
  ("ecuador", [0x1F1EA, 0x1F1E8]), ("egg", [0x1F373]), ("eggplant", [0x1F346]),
  ("egypt", [0x1F1EA, 0x1F1EC]), ("eight", [0x38, 0xFE0F, 0x20E3]),
  ("eight-pointed_star", [0x2734]), ("eight-spoked_asterisk", [0x2733]),
  ("eight-thirty", [0x1F563]), ("eight_o’clock", [0x1F557]), ("eight_pointed_black_star", [0x2734]),
  ("eight_spoked_asterisk", [0x2733]), ("eject_button", [0x23CF]), ("eject_symbol", [0x23CF]),
  ("el_salvador", [0x1F1F8, 0x1F1FB]), ("electric_plug", [0x1F50C]), ("elephant", [0x1F418]),
  ("eleven-thirty", [0x1F566]), ("eleven_o’clock", [0x1F55A]), ("elf", [0x1F9DD]),
  ("elf_dark_skin_tone", [0x1F9DD, 0x1F3FF]), ("elf_light_skin_tone", [0x1F9DD, 0x1F3FB]),
  ("elf_medium-dark_skin_tone", [0x1F9DD, 0x1F3FE]),
  ("elf_medium-light_skin_tone", [0x1F9DD, 0x1F3FC])]

/-- Part of `pictographsC` between `elf_medium_skin_tone` and `eyes`. -/
def pictographsC4 : List (String × List Nat) := [
  ("elf_medium_skin_tone", [0x1F9DD, 0x1F3FD]), ("email", [0x2709]),
  ("emoji_modifier_fitzpatrick_type__1__2", [0x1F3FB]),
  ("emoji_modifier_fitzpatrick_type__3", [0x1F3FC]),
  ("emoji_modifier_fitzpatrick_type__4", [0x1F3FD]),
  ("emoji_modifier_fitzpatrick_type__5", [0x1F3FE]),
  ("emoji_modifier_fitzpatrick_type__6", [0x1F3FF]), ("end", [0x1F51A]), ("end_arrow", [0x1F51A]),
  ("england", [0x1F3F4, 0xE0067, 0xE0062, 0xE0065, 0xE006E, 0xE0067, 0xE007F]),
  ("envelope", [0x2709]), ("envelope_with_arrow", [0x1F4E9]),
  ("equatorial_guinea", [0x1F1EC, 0x1F1F6]), ("eritrea", [0x1F1EA, 0x1F1F7]),
  ("estonia", [0x1F1EA, 0x1F1EA]), ("ethiopia", [0x1F1EA, 0x1F1F9]), ("euro", [0x1F4B6]),
  ("euro_banknote", [0x1F4B6]), ("european_castle", [0x1F3F0]), ("european_post_office", [0x1F3E4]),
  ("european_union", [0x1F1EA, 0x1F1FA]), ("evergreen_tree", [0x1F332]), ("ewe", [0x1F411]),
  ("exclamation", [0x2757]), ("exclamation_mark", [0x2757]),
  ("exclamation_question_mark", [0x2049]), ("exploding_head", [0x1F92F]),
  ("expressionless", [0x1F611]), ("expressionless_face", [0x1F611]), ("eye", [0x1F441]),
  ("eye_in_speech_bubble", [0x1F441, 0xFE0F, 0x200D, 0x1F5E8, 0xFE0F]), ("eyeglasses", [0x1F453]),
  ("eyes", [0x1F440])]

/-- The pictographs with these first letters: c to e. -/
def pictographsC : List (String × List Nat) :=
  pictographsC1 ++ pictographsC2 ++ pictographsC3 ++ pictographsC4

end Footgun.Output
