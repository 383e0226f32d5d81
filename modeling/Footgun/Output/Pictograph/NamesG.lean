/-! # Names of pictographs: g to l

The names with the code points of what they stand for, in the order of the names. -/

namespace Footgun.Output

/-- Part of `pictographsG` between `gabon` and `heavy_heart_exclamation`. -/
def pictographsG1 : List (String × List Nat) := [
  ("gabon", [0x1F1EC, 0x1F1E6]), ("gambia", [0x1F1EC, 0x1F1F2]), ("game_die", [0x1F3B2]),
  ("garlic", [0x1F9C4]), ("gear", [0x2699]), ("gem", [0x1F48E]), ("gem_stone", [0x1F48E]),
  ("gemini", [0x264A]), ("genie", [0x1F9DE]), ("georgia", [0x1F1EC, 0x1F1EA]),
  ("germany", [0x1F1E9, 0x1F1EA]), ("ghana", [0x1F1EC, 0x1F1ED]), ("ghost", [0x1F47B]),
  ("gibraltar", [0x1F1EC, 0x1F1EE]), ("gift", [0x1F381]), ("gift_heart", [0x1F49D]),
  ("giraffe", [0x1F992]), ("girl", [0x1F467]), ("girl_dark_skin_tone", [0x1F467, 0x1F3FF]),
  ("girl_light_skin_tone", [0x1F467, 0x1F3FB]), ("girl_medium-dark_skin_tone", [0x1F467, 0x1F3FE]),
  ("girl_medium-light_skin_tone", [0x1F467, 0x1F3FC]),
  ("girl_medium_skin_tone", [0x1F467, 0x1F3FD]), ("glass_of_milk", [0x1F95B]),
  ("glasses", [0x1F453]), ("globe_showing_americas", [0x1F30E]),
  ("globe_showing_asia-australia", [0x1F30F]), ("globe_showing_europe-africa", [0x1F30D]),
  ("globe_with_meridians", [0x1F310]), ("gloves", [0x1F9E4]), ("glowing_star", [0x1F31F]),
  ("goal_net", [0x1F945]), ("goat", [0x1F410]), ("goblin", [0x1F47A]), ("goggles", [0x1F97D]),
  ("golf", [0x26F3]), ("golfer", [0x1F3CC]), ("gorilla", [0x1F98D]), ("graduation_cap", [0x1F393]),
  ("grapes", [0x1F347]), ("greece", [0x1F1EC, 0x1F1F7]), ("green_apple", [0x1F34F]),
  ("green_book", [0x1F4D7]), ("green_circle", [0x1F7E2]), ("green_heart", [0x1F49A]),
  ("green_salad", [0x1F957]), ("green_square", [0x1F7E9]), ("greenland", [0x1F1EC, 0x1F1F1]),
  ("grenada", [0x1F1EC, 0x1F1E9]), ("grey_exclamation", [0x2755]), ("grey_question", [0x2754]),
  ("grimacing", [0x1F62C]), ("grimacing_face", [0x1F62C]), ("grin", [0x1F601]),
  ("grinning", [0x1F600]), ("grinning_cat_face", [0x1F63A]),
  ("grinning_cat_face_with_smiling_eyes", [0x1F638]), ("grinning_face", [0x1F600]),
  ("grinning_face_with_big_eyes", [0x1F603]), ("grinning_face_with_smiling_eyes", [0x1F604]),
  ("grinning_face_with_sweat", [0x1F605]), ("grinning_squinting_face", [0x1F606]),
  ("growing_heart", [0x1F497]), ("guadeloupe", [0x1F1EC, 0x1F1F5]), ("guam", [0x1F1EC, 0x1F1FA]),
  ("guard", [0x1F482]), ("guard_dark_skin_tone", [0x1F482, 0x1F3FF]),
  ("guard_light_skin_tone", [0x1F482, 0x1F3FB]),
  ("guard_medium-dark_skin_tone", [0x1F482, 0x1F3FE]),
  ("guard_medium-light_skin_tone", [0x1F482, 0x1F3FC]),
  ("guard_medium_skin_tone", [0x1F482, 0x1F3FD]), ("guardsman", [0x1F482]),
  ("guatemala", [0x1F1EC, 0x1F1F9]), ("guernsey", [0x1F1EC, 0x1F1EC]), ("guide_dog", [0x1F9AE]),
  ("guinea", [0x1F1EC, 0x1F1F3]), ("guinea-bissau", [0x1F1EC, 0x1F1FC]), ("guitar", [0x1F3B8]),
  ("gun", [0x1F52B]), ("guyana", [0x1F1EC, 0x1F1FE]), ("haircut", [0x1F487]),
  ("haiti", [0x1F1ED, 0x1F1F9]), ("hamburger", [0x1F354]), ("hammer", [0x1F528]),
  ("hammer_and_pick", [0x2692]), ("hammer_and_wrench", [0x1F6E0]), ("hamster", [0x1F439]),
  ("hamster_face", [0x1F439]), ("hand", [0x270B]), ("hand_with_fingers_splayed", [0x1F590]),
  ("hand_with_fingers_splayed_dark_skin_tone", [0x1F590, 0x1F3FF]),
  ("hand_with_fingers_splayed_light_skin_tone", [0x1F590, 0x1F3FB]),
  ("hand_with_fingers_splayed_medium-dark_skin_tone", [0x1F590, 0x1F3FE]),
  ("hand_with_fingers_splayed_medium-light_skin_tone", [0x1F590, 0x1F3FC]),
  ("hand_with_fingers_splayed_medium_skin_tone", [0x1F590, 0x1F3FD]), ("handbag", [0x1F45C]),
  ("handshake", [0x1F91D]), ("hankey", [0x1F4A9]), ("hatched_chick", [0x1F425]),
  ("hatching_chick", [0x1F423]), ("headphone", [0x1F3A7]), ("headphones", [0x1F3A7]),
  ("hear-no-evil_monkey", [0x1F649]), ("hear_no_evil", [0x1F649]),
  ("heard_&_mcdonald_islands", [0x1F1ED, 0x1F1F2]), ("heart", [0x2764]),
  ("heart_decoration", [0x1F49F]), ("heart_eyes", [0x1F60D]), ("heart_eyes_cat", [0x1F63B]),
  ("heart_suit", [0x2665]), ("heart_with_arrow", [0x1F498]), ("heart_with_ribbon", [0x1F49D]),
  ("heartbeat", [0x1F493]), ("heartpulse", [0x1F497]), ("hearts", [0x2665]),
  ("heavy_check_mark", [0x2714]), ("heavy_division_sign", [0x2797]),
  ("heavy_dollar_sign", [0x1F4B2]), ("heavy_exclamation_mark", [0x2757]),
  ("heavy_heart_exclamation", [0x2763])]

/-- Part of `pictographsG` between `heavy_heart_exclamation_mark_ornament` and
`japanese_service_charge_button`. -/
def pictographsG2 : List (String × List Nat) := [
  ("heavy_heart_exclamation_mark_ornament", [0x2763]), ("heavy_large_circle", [0x2B55]),
  ("heavy_minus_sign", [0x2796]), ("heavy_multiplication_x", [0x2716]),
  ("heavy_plus_sign", [0x2795]), ("hedgehog", [0x1F994]), ("helicopter", [0x1F681]),
  ("helm_symbol", [0x2388]), ("helmet_with_white_cross", [0x26D1]), ("herb", [0x1F33F]),
  ("hibiscus", [0x1F33A]), ("high-heeled_shoe", [0x1F460]), ("high-speed_train", [0x1F684]),
  ("high_brightness", [0x1F506]), ("high_heel", [0x1F460]), ("high_voltage", [0x26A1]),
  ("hiking_boot", [0x1F97E]), ("hindu_temple", [0x1F6D5]), ("hippopotamus", [0x1F99B]),
  ("hocho", [0x1F52A]), ("hole", [0x1F573]), ("honduras", [0x1F1ED, 0x1F1F3]),
  ("honey_pot", [0x1F36F]), ("honeybee", [0x1F41D]), ("hong_kong_sar_china", [0x1F1ED, 0x1F1F0]),
  ("horizontal_traffic_light", [0x1F6A5]), ("horse", [0x1F434]), ("horse_face", [0x1F434]),
  ("horse_racing", [0x1F3C7]), ("horse_racing_dark_skin_tone", [0x1F3C7, 0x1F3FF]),
  ("horse_racing_light_skin_tone", [0x1F3C7, 0x1F3FB]),
  ("horse_racing_medium-dark_skin_tone", [0x1F3C7, 0x1F3FE]),
  ("horse_racing_medium-light_skin_tone", [0x1F3C7, 0x1F3FC]),
  ("horse_racing_medium_skin_tone", [0x1F3C7, 0x1F3FD]), ("hospital", [0x1F3E5]),
  ("hot_beverage", [0x2615]), ("hot_dog", [0x1F32D]), ("hot_face", [0x1F975]),
  ("hot_pepper", [0x1F336]), ("hot_springs", [0x2668]), ("hotel", [0x1F3E8]),
  ("hotsprings", [0x2668]), ("hourglass", [0x231B]), ("hourglass_done", [0x231B]),
  ("hourglass_flowing_sand", [0x23F3]), ("hourglass_not_done", [0x23F3]), ("house", [0x1F3E0]),
  ("house_buildings", [0x1F3D8]), ("house_with_garden", [0x1F3E1]), ("houses", [0x1F3D8]),
  ("hugging_face", [0x1F917]), ("hundred_points", [0x1F4AF]), ("hungary", [0x1F1ED, 0x1F1FA]),
  ("hushed", [0x1F62F]), ("hushed_face", [0x1F62F]), ("ice", [0x1F9CA]), ("ice_cream", [0x1F368]),
  ("ice_hockey", [0x1F3D2]), ("ice_hockey_stick_and_puck", [0x1F3D2]), ("ice_skate", [0x26F8]),
  ("icecream", [0x1F366]), ("iceland", [0x1F1EE, 0x1F1F8]), ("id", [0x1F194]),
  ("id_button", [0x1F194]), ("ideograph_advantage", [0x1F250]), ("imp", [0x1F47F]),
  ("inbox_tray", [0x1F4E5]), ("incoming_envelope", [0x1F4E8]), ("index_pointing_up", [0x261D]),
  ("index_pointing_up_dark_skin_tone", [0x261D, 0x1F3FF]),
  ("index_pointing_up_light_skin_tone", [0x261D, 0x1F3FB]),
  ("index_pointing_up_medium-dark_skin_tone", [0x261D, 0x1F3FE]),
  ("index_pointing_up_medium-light_skin_tone", [0x261D, 0x1F3FC]),
  ("index_pointing_up_medium_skin_tone", [0x261D, 0x1F3FD]), ("india", [0x1F1EE, 0x1F1F3]),
  ("indonesia", [0x1F1EE, 0x1F1E9]), ("infinity", [0x267E]), ("information", [0x2139]),
  ("information_desk_person", [0x1F481]), ("information_source", [0x2139]), ("innocent", [0x1F607]),
  ("input_latin_letters", [0x1F524]), ("input_latin_lowercase", [0x1F521]),
  ("input_latin_uppercase", [0x1F520]), ("input_numbers", [0x1F522]), ("input_symbols", [0x1F523]),
  ("interrobang", [0x2049]), ("iphone", [0x1F4F1]), ("iran", [0x1F1EE, 0x1F1F7]),
  ("iraq", [0x1F1EE, 0x1F1F6]), ("ireland", [0x1F1EE, 0x1F1EA]),
  ("isle_of_man", [0x1F1EE, 0x1F1F2]), ("israel", [0x1F1EE, 0x1F1F1]),
  ("italy", [0x1F1EE, 0x1F1F9]), ("izakaya_lantern", [0x1F3EE]), ("jack-o-lantern", [0x1F383]),
  ("jack_o_lantern", [0x1F383]), ("jamaica", [0x1F1EF, 0x1F1F2]), ("japan", [0x1F5FE]),
  ("japanese_acceptable_button", [0x1F251]), ("japanese_application_button", [0x1F238]),
  ("japanese_bargain_button", [0x1F250]), ("japanese_castle", [0x1F3EF]),
  ("japanese_congratulations_button", [0x3297]), ("japanese_discount_button", [0x1F239]),
  ("japanese_dolls", [0x1F38E]), ("japanese_free_of_charge_button", [0x1F21A]),
  ("japanese_goblin", [0x1F47A]), ("japanese_here_button", [0x1F201]),
  ("japanese_monthly_amount_button", [0x1F237]), ("japanese_no_vacancy_button", [0x1F235]),
  ("japanese_not_free_of_charge_button", [0x1F236]), ("japanese_ogre", [0x1F479]),
  ("japanese_open_for_business_button", [0x1F23A]), ("japanese_passing_grade_button", [0x1F234]),
  ("japanese_post_office", [0x1F3E3]), ("japanese_prohibited_button", [0x1F232]),
  ("japanese_reserved_button", [0x1F22F]), ("japanese_secret_button", [0x3299]),
  ("japanese_service_charge_button", [0x1F202])]

/-- Part of `pictographsG` between `japanese_symbol_for_beginner` and `lipstick`. -/
def pictographsG3 : List (String × List Nat) := [
  ("japanese_symbol_for_beginner", [0x1F530]), ("japanese_vacancy_button", [0x1F233]),
  ("jeans", [0x1F456]), ("jersey", [0x1F1EF, 0x1F1EA]), ("jigsaw", [0x1F9E9]), ("joker", [0x1F0CF]),
  ("jordan", [0x1F1EF, 0x1F1F4]), ("joy", [0x1F602]), ("joy_cat", [0x1F639]),
  ("joystick", [0x1F579]), ("kaaba", [0x1F54B]), ("kangaroo", [0x1F998]),
  ("kazakhstan", [0x1F1F0, 0x1F1FF]), ("kenya", [0x1F1F0, 0x1F1EA]), ("key", [0x1F511]),
  ("keyboard", [0x2328]), ("keycap_#", [0x23, 0xFE0F, 0x20E3]),
  ("keycap_*", [0x2A, 0xFE0F, 0x20E3]), ("keycap_0", [0x30, 0xFE0F, 0x20E3]),
  ("keycap_1", [0x31, 0xFE0F, 0x20E3]), ("keycap_10", [0x1F51F]),
  ("keycap_2", [0x32, 0xFE0F, 0x20E3]), ("keycap_3", [0x33, 0xFE0F, 0x20E3]),
  ("keycap_4", [0x34, 0xFE0F, 0x20E3]), ("keycap_5", [0x35, 0xFE0F, 0x20E3]),
  ("keycap_6", [0x36, 0xFE0F, 0x20E3]), ("keycap_7", [0x37, 0xFE0F, 0x20E3]),
  ("keycap_8", [0x38, 0xFE0F, 0x20E3]), ("keycap_9", [0x39, 0xFE0F, 0x20E3]),
  ("keycap_asterisk", [0x2A, 0x20E3]), ("keycap_digit_eight", [0x38, 0x20E3]),
  ("keycap_digit_five", [0x35, 0x20E3]), ("keycap_digit_four", [0x34, 0x20E3]),
  ("keycap_digit_nine", [0x39, 0x20E3]), ("keycap_digit_one", [0x31, 0x20E3]),
  ("keycap_digit_seven", [0x37, 0x20E3]), ("keycap_digit_six", [0x36, 0x20E3]),
  ("keycap_digit_three", [0x33, 0x20E3]), ("keycap_digit_two", [0x32, 0x20E3]),
  ("keycap_digit_zero", [0x30, 0x20E3]), ("keycap_number_sign", [0x23, 0x20E3]),
  ("kick_scooter", [0x1F6F4]), ("kimono", [0x1F458]), ("kiribati", [0x1F1F0, 0x1F1EE]),
  ("kiss", [0x1F48B]),
  ("kiss_man_man", [0x1F468, 0x200D, 0x2764, 0xFE0F, 0x200D, 0x1F48B, 0x200D, 0x1F468]),
  ("kiss_mark", [0x1F48B]),
  ("kiss_woman_man", [0x1F469, 0x200D, 0x2764, 0xFE0F, 0x200D, 0x1F48B, 0x200D, 0x1F468]),
  ("kiss_woman_woman", [0x1F469, 0x200D, 0x2764, 0xFE0F, 0x200D, 0x1F48B, 0x200D, 0x1F469]),
  ("kissing", [0x1F617]), ("kissing_cat", [0x1F63D]), ("kissing_cat_face", [0x1F63D]),
  ("kissing_closed_eyes", [0x1F61A]), ("kissing_face", [0x1F617]),
  ("kissing_face_with_closed_eyes", [0x1F61A]), ("kissing_face_with_smiling_eyes", [0x1F619]),
  ("kissing_heart", [0x1F618]), ("kissing_smiling_eyes", [0x1F619]), ("kitchen_knife", [0x1F52A]),
  ("kite", [0x1FA81]), ("kiwi_fruit", [0x1F95D]), ("knife", [0x1F52A]), ("koala", [0x1F428]),
  ("koko", [0x1F201]), ("kosovo", [0x1F1FD, 0x1F1F0]), ("kuwait", [0x1F1F0, 0x1F1FC]),
  ("kyrgyzstan", [0x1F1F0, 0x1F1EC]), ("lab_coat", [0x1F97C]), ("label", [0x1F3F7]),
  ("lacrosse", [0x1F94D]), ("lady_beetle", [0x1F41E]), ("lantern", [0x1F3EE]),
  ("laos", [0x1F1F1, 0x1F1E6]), ("laptop_computer", [0x1F4BB]), ("large_blue_circle", [0x1F535]),
  ("large_blue_diamond", [0x1F537]), ("large_orange_diamond", [0x1F536]),
  ("last_quarter_moon", [0x1F317]), ("last_quarter_moon_face", [0x1F31C]),
  ("last_quarter_moon_with_face", [0x1F31C]), ("last_track_button", [0x23EE]),
  ("latin_cross", [0x271D]), ("latvia", [0x1F1F1, 0x1F1FB]), ("laughing", [0x1F606]),
  ("leaf_fluttering_in_wind", [0x1F343]), ("leafy_green", [0x1F96C]), ("leaves", [0x1F343]),
  ("lebanon", [0x1F1F1, 0x1F1E7]), ("ledger", [0x1F4D2]), ("left-facing_fist", [0x1F91B]),
  ("left-facing_fist_dark_skin_tone", [0x1F91B, 0x1F3FF]),
  ("left-facing_fist_light_skin_tone", [0x1F91B, 0x1F3FB]),
  ("left-facing_fist_medium-dark_skin_tone", [0x1F91B, 0x1F3FE]),
  ("left-facing_fist_medium-light_skin_tone", [0x1F91B, 0x1F3FC]),
  ("left-facing_fist_medium_skin_tone", [0x1F91B, 0x1F3FD]), ("left-right_arrow", [0x2194]),
  ("left_arrow", [0x2B05]), ("left_arrow_curving_right", [0x21AA]), ("left_luggage", [0x1F6C5]),
  ("left_right_arrow", [0x2194]), ("left_speech_bubble", [0x1F5E8]),
  ("leftwards_arrow_with_hook", [0x21A9]), ("leg", [0x1F9B5]), ("lemon", [0x1F34B]),
  ("leo", [0x264C]), ("leopard", [0x1F406]), ("lesotho", [0x1F1F1, 0x1F1F8]),
  ("level_slider", [0x1F39A]), ("liberia", [0x1F1F1, 0x1F1F7]), ("libra", [0x264E]),
  ("libya", [0x1F1F1, 0x1F1FE]), ("liechtenstein", [0x1F1F1, 0x1F1EE]), ("light_bulb", [0x1F4A1]),
  ("light_rail", [0x1F688]), ("light_skin_tone", [0x1F3FB]), ("link", [0x1F517]),
  ("linked_paperclips", [0x1F587]), ("lion_face", [0x1F981]), ("lips", [0x1F444]),
  ("lipstick", [0x1F484])]

/-- Part of `pictographsG` between `lithuania` and `lying_face`. -/
def pictographsG4 : List (String × List Nat) := [
  ("lithuania", [0x1F1F1, 0x1F1F9]), ("litter_in_bin_sign", [0x1F6AE]), ("lizard", [0x1F98E]),
  ("llama", [0x1F999]), ("lobster", [0x1F99E]), ("lock", [0x1F512]),
  ("lock_with_ink_pen", [0x1F50F]), ("locked", [0x1F512]), ("locked_with_key", [0x1F510]),
  ("locked_with_pen", [0x1F50F]), ("locomotive", [0x1F682]), ("lollipop", [0x1F36D]),
  ("loop", [0x27BF]), ("lotion_bottle", [0x1F9F4]), ("loud_sound", [0x1F50A]),
  ("loudly_crying_face", [0x1F62D]), ("loudspeaker", [0x1F4E2]), ("love-you_gesture", [0x1F91F]),
  ("love-you_gesture_dark_skin_tone", [0x1F91F, 0x1F3FF]),
  ("love-you_gesture_light_skin_tone", [0x1F91F, 0x1F3FB]),
  ("love-you_gesture_medium-dark_skin_tone", [0x1F91F, 0x1F3FE]),
  ("love-you_gesture_medium-light_skin_tone", [0x1F91F, 0x1F3FC]),
  ("love-you_gesture_medium_skin_tone", [0x1F91F, 0x1F3FD]), ("love_hotel", [0x1F3E9]),
  ("love_letter", [0x1F48C]), ("low_brightness", [0x1F505]),
  ("lower_left_ballpoint_pen", [0x1F58A]), ("lower_left_crayon", [0x1F58D]),
  ("lower_left_fountain_pen", [0x1F58B]), ("lower_left_paintbrush", [0x1F58C]),
  ("luggage", [0x1F9F3]), ("luxembourg", [0x1F1F1, 0x1F1FA]), ("lying_face", [0x1F925])]

/-- The pictographs with these first letters: g to l. -/
def pictographsG : List (String × List Nat) :=
  pictographsG1 ++ pictographsG2 ++ pictographsG3 ++ pictographsG4

end Footgun.Output
