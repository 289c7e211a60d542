/-! The names of pictograms.

    `names` has a line for each pictogram: its code points, joined by hyphens, and its names. `regions`
    has a line for each region with a flag: its two letters and its name. `toned` lists the names to
    which a skin tone can be added. -/

namespace Taskboard
namespace Text
namespace Pictogram

/-- The pictograms by their code points, each with its names. -/
def names : String :=
  "23-20E3 keycap_number_sign
   23-FE0F-20E3 keycap_#
   2A-20E3 keycap_asterisk
   2A-FE0F-20E3 keycap_*
   30-20E3 keycap_digit_zero
   30-FE0F-20E3 keycap_0 zero
   31-20E3 keycap_digit_one
   31-FE0F-20E3 keycap_1 one
   32-20E3 keycap_digit_two
   32-FE0F-20E3 keycap_2 two
   33-20E3 keycap_digit_three
   33-FE0F-20E3 keycap_3 three
   34-20E3 keycap_digit_four
   34-FE0F-20E3 keycap_4 four
   35-20E3 keycap_digit_five
   35-FE0F-20E3 keycap_5 five
   36-20E3 keycap_digit_six
   36-FE0F-20E3 keycap_6 six
   37-20E3 keycap_digit_seven
   37-FE0F-20E3 keycap_7 seven
   38-20E3 keycap_digit_eight
   38-FE0F-20E3 keycap_8 eight
   39-20E3 keycap_digit_nine
   39-FE0F-20E3 keycap_9 nine
   A9 copyright
   AE registered
   203C double_exclamation_mark bangbang
   2049 exclamation_question_mark interrobang
   2122 trade_mark tm
   2139 information information_source
   2194 left-right_arrow left_right_arrow
   2195 up-down_arrow arrow_up_down
   2196 up-left_arrow arrow_upper_left
   2197 up-right_arrow arrow_upper_right
   2198 down-right_arrow arrow_lower_right
   2199 down-left_arrow arrow_lower_left
   21A9 right_arrow_curving_left leftwards_arrow_with_hook
   21AA left_arrow_curving_right arrow_right_hook
   231A watch
   231B hourglass_done hourglass
   2328 keyboard
   2388 helm_symbol
   23CF eject_button eject_symbol
   23E9 fast-forward_button fast_forward
   23EA fast_reverse_button rewind
   23EB fast_up_button arrow_double_up
   23EC fast_down_button arrow_double_down
   23ED next_track_button black_right__pointing_double_triangle_with_vertical_bar
   23EE last_track_button black_left__pointing_double_triangle_with_vertical_bar
   23EF play_or_pause_button black_right__pointing_triangle_with_double_vertical_bar
   23F0 alarm_clock
   23F1 stopwatch
   23F2 timer_clock
   23F3 hourglass_not_done hourglass_flowing_sand
   23F8 pause_button double_vertical_bar
   23F9 stop_button black_square_for_stop
   23FA record_button black_circle_for_record
   24C2 circled_m m
   25AA black_small_square
   25AB white_small_square
   25B6 play_button arrow_forward
   25C0 reverse_button arrow_backward
   25FB white_medium_square
   25FC black_medium_square
   25FD white_medium-small_square white_medium_small_square
   25FE black_medium-small_square black_medium_small_square
   2600 sun sunny
   2601 cloud
   2602 umbrella
   2603 snowman
   2604 comet
   260E telephone phone
   2611 ballot_box_with_check
   2614 umbrella_with_rain_drops
   2615 hot_beverage coffee
   2618 shamrock
   261D index_pointing_up point_up
   2620 skull_and_crossbones
   2622 radioactive radioactive_sign
   2623 biohazard biohazard_sign
   2626 orthodox_cross
   262A star_and_crescent
   262E peace_symbol
   262F yin_yang
   2638 wheel_of_dharma
   2639 frowning_face white_frowning_face
   263A smiling_face relaxed
   2640 female_sign
   2642 male_sign
   2648 aries
   2649 taurus
   264A gemini
   264B cancer
   264C leo
   264D virgo
   264E libra
   264F scorpio scorpius
   2650 sagittarius
   2651 capricorn
   2652 aquarius
   2653 pisces
   265F chess_pawn
   2660 spade_suit spades
   2663 club_suit clubs
   2665 heart_suit hearts
   2666 diamond_suit diamonds
   2668 hot_springs hotsprings
   267B recycling_symbol recycle
   267E infinity
   267F wheelchair_symbol wheelchair
   2692 hammer_and_pick
   2693 anchor
   2694 crossed_swords
   2695 medical_symbol
   2696 balance_scale scales
   2697 alembic
   2699 gear
   269B atom_symbol
   269C fleur-de-lis fleur__de__lis
   26A0 warning
   26A1 high_voltage zap
   26AA white_circle
   26AB black_circle
   26B0 coffin
   26B1 funeral_urn
   26BD soccer_ball soccer
   26BE baseball
   26C4 snowman_without_snow
   26C5 sun_behind_cloud partly_sunny
   26C8 cloud_with_lightning_and_rain thunder_cloud_and_rain
   26CE ophiuchus
   26CF pick
   26D1 rescue_worker’s_helmet helmet_with_white_cross
   26D3 chains
   26D4 no_entry
   26E9 shinto_shrine
   26EA church
   26F0 mountain
   26F1 umbrella_on_ground
   26F2 fountain
   26F3 flag_in_hole golf
   26F4 ferry
   26F5 sailboat boat
   26F7 skier
   26F8 ice_skate
   26F9 person_bouncing_ball person_with_ball
   26F9-FE0F-200D-2640-FE0F woman_bouncing_ball
   26F9-FE0F-200D-2642-FE0F man_bouncing_ball
   26FA tent
   26FD fuel_pump fuelpump
   2702 scissors
   2705 white_heavy_check_mark white_check_mark
   2708 airplane
   2709 envelope email
   270A raised_fist fist
   270B raised_hand hand
   270C victory_hand v
   270D writing_hand
   270F pencil2
   2712 black_nib
   2714 heavy_check_mark
   2716 heavy_multiplication_x
   271D latin_cross
   2721 star_of_david
   2728 sparkles
   2733 eight-spoked_asterisk eight_spoked_asterisk
   2734 eight-pointed_star eight_pointed_black_star
   2744 snowflake
   2747 sparkle
   274C cross_mark x
   274E cross_mark_button negative_squared_cross_mark
   2753 question_mark question
   2754 white_question_mark grey_question
   2755 white_exclamation_mark grey_exclamation
   2757 exclamation_mark exclamation heavy_exclamation_mark
   2763 heavy_heart_exclamation heavy_heart_exclamation_mark_ornament
   2764 red_heart heart
   2795 heavy_plus_sign
   2796 heavy_minus_sign
   2797 heavy_division_sign
   27A1 right_arrow arrow_right
   27B0 curly_loop
   27BF double_curly_loop loop
   2934 right_arrow_curving_up arrow_heading_up
   2935 right_arrow_curving_down arrow_heading_down
   2B05 left_arrow arrow_left
   2B06 up_arrow arrow_up
   2B07 down_arrow arrow_down
   2B1B black_large_square
   2B1C white_large_square
   2B50 white_medium_star star
   2B55 heavy_large_circle o
   3030 wavy_dash
   303D part_alternation_mark
   3297 japanese_congratulations_button congratulations
   3299 japanese_secret_button secret
   1F004 mahjong_red_dragon mahjong
   1F0CF joker black_joker
   1F170 a_button_(blood_type) a
   1F171 b_button_(blood_type) b
   1F17E o_button_(blood_type) o2
   1F17F p_button parking
   1F18E ab_button_(blood_type) ab
   1F191 cl_button cl
   1F192 cool_button cool
   1F193 free_button free
   1F194 id_button id
   1F195 new_button new
   1F196 ng_button ng
   1F197 ok_button ok
   1F198 sos_button sos
   1F199 up!_button up
   1F19A vs_button vs
   1F1E6 regional_indicator_symbol_letter_a
   1F1E7 regional_indicator_symbol_letter_b
   1F1E8 regional_indicator_symbol_letter_c
   1F1E8-1F1E8 cocos_(keeling)_islands flag_for_cocos__islands
   1F1E8-1F1E9 congo_-_kinshasa flag_for_congo____kinshasa
   1F1E8-1F1EC congo_-_brazzaville flag_for_congo____brazzaville
   1F1E8-1F1FF czechia flag_for_czech_republic
   1F1E9 regional_indicator_symbol_letter_d
   1F1EA regional_indicator_symbol_letter_e
   1F1EB regional_indicator_symbol_letter_f
   1F1EC regional_indicator_symbol_letter_g
   1F1EC-1F1FC guinea-bissau flag_for_guinea__bissau
   1F1ED regional_indicator_symbol_letter_h
   1F1ED-1F1F0 hong_kong_sar_china flag_for_hong_kong
   1F1EE regional_indicator_symbol_letter_i
   1F1EF regional_indicator_symbol_letter_j
   1F1EF-1F1F5 flag_for_japan
   1F1F0 regional_indicator_symbol_letter_k
   1F1F1 regional_indicator_symbol_letter_l
   1F1F2 regional_indicator_symbol_letter_m
   1F1F2-1F1F2 myanmar_(burma) flag_for_myanmar
   1F1F2-1F1F4 macau_sar_china flag_for_macau
   1F1F3 regional_indicator_symbol_letter_n
   1F1F4 regional_indicator_symbol_letter_o
   1F1F5 regional_indicator_symbol_letter_p
   1F1F6 regional_indicator_symbol_letter_q
   1F1F7 regional_indicator_symbol_letter_r
   1F1F8 regional_indicator_symbol_letter_s
   1F1F9 regional_indicator_symbol_letter_t
   1F1F9-1F1F1 timor-leste flag_for_timor__leste
   1F1F9-1F1F7 flag_for_turkey
   1F1FA regional_indicator_symbol_letter_u
   1F1FA-1F1F3 united_nations
   1F1FB regional_indicator_symbol_letter_v
   1F1FC regional_indicator_symbol_letter_w
   1F1FD regional_indicator_symbol_letter_x
   1F1FE regional_indicator_symbol_letter_y
   1F1FF regional_indicator_symbol_letter_z
   1F201 japanese_here_button koko
   1F202 japanese_service_charge_button sa
   1F21A japanese_free_of_charge_button u7121
   1F22F japanese_reserved_button u6307
   1F232 japanese_prohibited_button u7981
   1F233 japanese_vacancy_button u7a7a
   1F234 japanese_passing_grade_button u5408
   1F235 japanese_no_vacancy_button u6e80
   1F236 japanese_not_free_of_charge_button u6709
   1F237 japanese_monthly_amount_button u6708
   1F238 japanese_application_button u7533
   1F239 japanese_discount_button u5272
   1F23A japanese_open_for_business_button u55b6
   1F250 japanese_bargain_button ideograph_advantage
   1F251 japanese_acceptable_button accept
   1F300 cyclone
   1F301 foggy
   1F302 closed_umbrella
   1F303 night_with_stars
   1F304 sunrise_over_mountains
   1F305 sunrise
   1F306 cityscape_at_dusk city_sunset
   1F307 sunset city_sunrise
   1F308 rainbow
   1F309 bridge_at_night
   1F30A water_wave ocean
   1F30B volcano
   1F30C milky_way
   1F30D globe_showing_europe-africa earth_africa
   1F30E globe_showing_americas earth_americas
   1F30F globe_showing_asia-australia earth_asia
   1F310 globe_with_meridians
   1F311 new_moon
   1F312 waxing_crescent_moon
   1F313 first_quarter_moon
   1F314 waxing_gibbous_moon moon
   1F315 full_moon
   1F316 waning_gibbous_moon
   1F317 last_quarter_moon
   1F318 waning_crescent_moon
   1F319 crescent_moon
   1F31A new_moon_face new_moon_with_face
   1F31B first_quarter_moon_face first_quarter_moon_with_face
   1F31C last_quarter_moon_face last_quarter_moon_with_face
   1F31D full_moon_face full_moon_with_face
   1F31E sun_with_face
   1F31F glowing_star star2
   1F320 shooting_star stars
   1F321 thermometer
   1F324 sun_behind_small_cloud white_sun_with_small_cloud
   1F325 sun_behind_large_cloud white_sun_behind_cloud
   1F326 sun_behind_rain_cloud white_sun_behind_cloud_with_rain
   1F327 cloud_with_rain
   1F328 cloud_with_snow
   1F329 cloud_with_lightning
   1F32A tornado cloud_with_tornado
   1F32B fog
   1F32C wind_face wind_blowing_face
   1F32D hot_dog
   1F32E taco
   1F32F burrito
   1F330 chestnut
   1F331 seedling
   1F332 evergreen_tree
   1F333 deciduous_tree
   1F334 palm_tree
   1F335 cactus
   1F336 hot_pepper
   1F337 tulip
   1F338 cherry_blossom
   1F339 rose
   1F33A hibiscus
   1F33B sunflower
   1F33C blossom
   1F33D ear_of_corn corn
   1F33E sheaf_of_rice ear_of_rice
   1F33F herb
   1F340 four_leaf_clover
   1F341 maple_leaf
   1F342 fallen_leaf
   1F343 leaf_fluttering_in_wind leaves
   1F344 mushroom
   1F345 tomato
   1F346 eggplant
   1F347 grapes
   1F348 melon
   1F349 watermelon
   1F34A tangerine
   1F34B lemon
   1F34C banana
   1F34D pineapple
   1F34E red_apple apple
   1F34F green_apple
   1F350 pear
   1F351 peach
   1F352 cherries
   1F353 strawberry
   1F354 hamburger
   1F355 pizza
   1F356 meat_on_bone
   1F357 poultry_leg
   1F358 rice_cracker
   1F359 rice_ball
   1F35A cooked_rice rice
   1F35B curry_rice curry
   1F35C steaming_bowl ramen
   1F35D spaghetti
   1F35E bread
   1F35F french_fries fries
   1F360 roasted_sweet_potato sweet_potato
   1F361 dango
   1F362 oden
   1F363 sushi
   1F364 fried_shrimp
   1F365 fish_cake_with_swirl fish_cake
   1F366 soft_ice_cream icecream
   1F367 shaved_ice
   1F368 ice_cream
   1F369 doughnut
   1F36A cookie
   1F36B chocolate_bar
   1F36C candy
   1F36D lollipop
   1F36E custard
   1F36F honey_pot
   1F370 shortcake cake
   1F371 bento_box bento
   1F372 pot_of_food stew
   1F373 cooking egg
   1F374 fork_and_knife
   1F375 teacup_without_handle tea
   1F376 sake
   1F377 wine_glass
   1F378 cocktail_glass cocktail
   1F379 tropical_drink
   1F37A beer_mug beer
   1F37B clinking_beer_mugs beers
   1F37C baby_bottle
   1F37D fork_and_knife_with_plate
   1F37E bottle_with_popping_cork
   1F37F popcorn
   1F380 ribbon
   1F381 wrapped_gift gift
   1F382 birthday_cake birthday
   1F383 jack-o-lantern jack_o_lantern
   1F384 christmas_tree
   1F385 santa_claus santa
   1F386 fireworks
   1F387 sparkler
   1F388 balloon
   1F389 party_popper tada
   1F38A confetti_ball
   1F38B tanabata_tree
   1F38C crossed_flags
   1F38D pine_decoration bamboo
   1F38E japanese_dolls dolls
   1F38F carp_streamer flags
   1F390 wind_chime
   1F391 moon_viewing_ceremony rice_scene
   1F392 school_backpack school_satchel
   1F393 graduation_cap mortar_board
   1F396 military_medal
   1F397 reminder_ribbon
   1F399 studio_microphone
   1F39A level_slider
   1F39B control_knobs
   1F39E film_frames
   1F39F admission_tickets
   1F3A0 carousel_horse
   1F3A1 ferris_wheel
   1F3A2 roller_coaster
   1F3A3 fishing_pole fishing_pole_and_fish
   1F3A4 microphone
   1F3A5 movie_camera
   1F3A6 cinema
   1F3A7 headphone headphones
   1F3A8 artist_palette art
   1F3A9 top_hat tophat
   1F3AA circus_tent
   1F3AB ticket
   1F3AC clapper_board clapper
   1F3AD performing_arts
   1F3AE video_game
   1F3AF direct_hit dart
   1F3B0 slot_machine
   1F3B1 pool_8_ball 8ball
   1F3B2 game_die
   1F3B3 bowling
   1F3B4 flower_playing_cards
   1F3B5 musical_note
   1F3B6 musical_notes notes
   1F3B7 saxophone
   1F3B8 guitar
   1F3B9 musical_keyboard
   1F3BA trumpet
   1F3BB violin
   1F3BC musical_score
   1F3BD running_shirt running_shirt_with_sash
   1F3BE tennis
   1F3BF skis ski
   1F3C0 basketball
   1F3C1 chequered_flag checkered_flag
   1F3C2 snowboarder
   1F3C3 person_running runner running
   1F3C3-200D-2640-FE0F woman_running
   1F3C3-200D-2642-FE0F man_running
   1F3C4 person_surfing surfer
   1F3C4-200D-2640-FE0F woman_surfing
   1F3C4-200D-2642-FE0F man_surfing
   1F3C5 sports_medal
   1F3C6 trophy
   1F3C7 horse_racing
   1F3C8 american_football football
   1F3C9 rugby_football
   1F3CA person_swimming swimmer
   1F3CA-200D-2640-FE0F woman_swimming
   1F3CA-200D-2642-FE0F man_swimming
   1F3CB person_lifting_weights weight_lifter
   1F3CB-FE0F-200D-2640-FE0F woman_lifting_weights
   1F3CB-FE0F-200D-2642-FE0F man_lifting_weights
   1F3CC person_golfing golfer
   1F3CC-FE0F-200D-2640-FE0F woman_golfing
   1F3CC-FE0F-200D-2642-FE0F man_golfing
   1F3CD motorcycle racing_motorcycle
   1F3CE racing_car
   1F3CF cricket_game cricket_bat_and_ball
   1F3D0 volleyball
   1F3D1 field_hockey field_hockey_stick_and_ball
   1F3D2 ice_hockey ice_hockey_stick_and_puck
   1F3D3 ping_pong table_tennis_paddle_and_ball
   1F3D4 snow-capped_mountain snow_capped_mountain
   1F3D5 camping
   1F3D6 beach_with_umbrella
   1F3D7 building_construction
   1F3D8 houses house_buildings
   1F3D9 cityscape
   1F3DA derelict_house derelict_house_building
   1F3DB classical_building
   1F3DC desert
   1F3DD desert_island
   1F3DE national_park
   1F3DF stadium
   1F3E0 house
   1F3E1 house_with_garden
   1F3E2 office_building office
   1F3E3 japanese_post_office post_office
   1F3E4 european_post_office
   1F3E5 hospital
   1F3E6 bank
   1F3E7 atm_sign atm
   1F3E8 hotel
   1F3E9 love_hotel
   1F3EA convenience_store
   1F3EB school
   1F3EC department_store
   1F3ED factory
   1F3EE red_paper_lantern izakaya_lantern lantern
   1F3EF japanese_castle
   1F3F0 castle european_castle
   1F3F3 white_flag waving_white_flag
   1F3F3-FE0F-200D-1F308 rainbow_flag
   1F3F4 black_flag waving_black_flag
   1F3F4-200D-2620-FE0F pirate_flag
   1F3F4-E0067-E0062-E0065-E006E-E0067-E007F england
   1F3F4-E0067-E0062-E0073-E0063-E0074-E007F scotland
   1F3F4-E0067-E0062-E0077-E006C-E0073-E007F wales
   1F3F5 rosette
   1F3F7 label
   1F3F8 badminton badminton_racquet_and_shuttlecock
   1F3F9 bow_and_arrow
   1F3FA amphora
   1F3FB light_skin_tone emoji_modifier_fitzpatrick_type__1__2
   1F3FC medium_light_skin_tone emoji_modifier_fitzpatrick_type__3
   1F3FD medium_skin_tone emoji_modifier_fitzpatrick_type__4
   1F3FE medium_dark_skin_tone emoji_modifier_fitzpatrick_type__5
   1F3FF dark_skin_tone emoji_modifier_fitzpatrick_type__6
   1F400 rat
   1F401 mouse2
   1F402 ox
   1F403 water_buffalo
   1F404 cow2
   1F405 tiger2
   1F406 leopard
   1F407 rabbit2
   1F408 cat2
   1F409 dragon
   1F40A crocodile
   1F40B whale2
   1F40C snail
   1F40D snake
   1F40E racehorse
   1F40F ram
   1F410 goat
   1F411 ewe sheep
   1F412 monkey
   1F413 rooster
   1F414 chicken
   1F415 dog2
   1F415-200D-1F9BA service_dog
   1F416 pig2
   1F417 boar
   1F418 elephant
   1F419 octopus
   1F41A spiral_shell shell
   1F41B bug
   1F41C ant
   1F41D honeybee bee
   1F41E lady_beetle beetle
   1F41F fish
   1F420 tropical_fish
   1F421 blowfish
   1F422 turtle
   1F423 hatching_chick
   1F424 baby_chick
   1F425 front-facing_baby_chick hatched_chick
   1F426 bird
   1F427 penguin
   1F428 koala
   1F429 poodle
   1F42A dromedary_camel
   1F42B camel two-hump_camel
   1F42C dolphin flipper
   1F42D mouse mouse_face
   1F42E cow cow_face
   1F42F tiger tiger_face
   1F430 rabbit rabbit_face
   1F431 cat cat_face
   1F432 dragon_face
   1F433 spouting_whale whale
   1F434 horse horse_face
   1F435 monkey_face
   1F436 dog dog_face
   1F437 pig pig_face
   1F438 frog_face frog
   1F439 hamster_face hamster
   1F43A wolf_face wolf
   1F43B bear_face bear
   1F43C panda_face
   1F43D pig_nose
   1F43E paw_prints feet
   1F43F chipmunk
   1F440 eyes
   1F441 eye
   1F441-FE0F-200D-1F5E8-FE0F eye_in_speech_bubble
   1F442 ear
   1F443 nose
   1F444 mouth lips
   1F445 tongue
   1F446 backhand_index_pointing_up point_up_2
   1F447 backhand_index_pointing_down point_down
   1F448 backhand_index_pointing_left point_left
   1F449 backhand_index_pointing_right point_right
   1F44A oncoming_fist facepunch punch
   1F44B waving_hand wave
   1F44C ok_hand
   1F44D thumbs_up +1 thumbsup
   1F44E thumbs_down __1 -1 thumbsdown
   1F44F clapping_hands clap
   1F450 open_hands
   1F451 crown
   1F452 woman’s_hat womans_hat
   1F453 glasses eyeglasses
   1F454 necktie
   1F455 t-shirt shirt tshirt
   1F456 jeans
   1F457 dress
   1F458 kimono
   1F459 bikini
   1F45A woman’s_clothes womans_clothes
   1F45B purse
   1F45C handbag
   1F45D clutch_bag pouch
   1F45E man’s_shoe mans_shoe shoe
   1F45F running_shoe athletic_shoe
   1F460 high-heeled_shoe high_heel
   1F461 woman’s_sandal sandal
   1F462 woman’s_boot boot
   1F463 footprints
   1F464 bust_in_silhouette
   1F465 busts_in_silhouette
   1F466 boy
   1F467 girl
   1F468 man
   1F468-200D-2695-FE0F man_health_worker
   1F468-200D-2696-FE0F man_judge
   1F468-200D-2708-FE0F man_pilot
   1F468-200D-2764-FE0F-200D-1F468 couple_with_heart_man_man
   1F468-200D-2764-FE0F-200D-1F48B-200D-1F468 kiss_man_man
   1F468-200D-1F33E man_farmer
   1F468-200D-1F373 man_cook
   1F468-200D-1F393 man_student
   1F468-200D-1F3A4 man_singer
   1F468-200D-1F3A8 man_artist
   1F468-200D-1F3EB man_teacher
   1F468-200D-1F3ED man_factory_worker
   1F468-200D-1F466 family_man_boy
   1F468-200D-1F466-200D-1F466 family_man_boy_boy
   1F468-200D-1F467 family_man_girl
   1F468-200D-1F467-200D-1F466 family_man_girl_boy
   1F468-200D-1F467-200D-1F467 family_man_girl_girl
   1F468-200D-1F468-200D-1F466 family_man_man_boy
   1F468-200D-1F468-200D-1F466-200D-1F466 family_man_man_boy_boy
   1F468-200D-1F468-200D-1F467 family_man_man_girl
   1F468-200D-1F468-200D-1F467-200D-1F466 family_man_man_girl_boy
   1F468-200D-1F468-200D-1F467-200D-1F467 family_man_man_girl_girl
   1F468-200D-1F469-200D-1F466 family_man_woman_boy
   1F468-200D-1F469-200D-1F466-200D-1F466 family_man_woman_boy_boy
   1F468-200D-1F469-200D-1F467 family_man_woman_girl
   1F468-200D-1F469-200D-1F467-200D-1F466 family_man_woman_girl_boy
   1F468-200D-1F469-200D-1F467-200D-1F467 family_man_woman_girl_girl
   1F468-200D-1F4BB man_technologist
   1F468-200D-1F4BC man_office_worker
   1F468-200D-1F527 man_mechanic
   1F468-200D-1F52C man_scientist
   1F468-200D-1F680 man_astronaut
   1F468-200D-1F692 man_firefighter
   1F468-200D-1F9AF man_with_probing_cane
   1F468-200D-1F9B0 red-haired_man
   1F468-200D-1F9B1 curly-haired_man
   1F468-200D-1F9B2 bald_man
   1F468-200D-1F9B3 white-haired_man
   1F468-200D-1F9BC man_in_motorized_wheelchair
   1F468-200D-1F9BD man_in_manual_wheelchair
   1F469 woman
   1F469-200D-2695-FE0F woman_health_worker
   1F469-200D-2696-FE0F woman_judge
   1F469-200D-2708-FE0F woman_pilot
   1F469-200D-2764-FE0F-200D-1F468 couple_with_heart_woman_man
   1F469-200D-2764-FE0F-200D-1F469 couple_with_heart_woman_woman
   1F469-200D-2764-FE0F-200D-1F48B-200D-1F468 kiss_woman_man
   1F469-200D-2764-FE0F-200D-1F48B-200D-1F469 kiss_woman_woman
   1F469-200D-1F33E woman_farmer
   1F469-200D-1F373 woman_cook
   1F469-200D-1F393 woman_student
   1F469-200D-1F3A4 woman_singer
   1F469-200D-1F3A8 woman_artist
   1F469-200D-1F3EB woman_teacher
   1F469-200D-1F3ED woman_factory_worker
   1F469-200D-1F466 family_woman_boy
   1F469-200D-1F466-200D-1F466 family_woman_boy_boy
   1F469-200D-1F467 family_woman_girl
   1F469-200D-1F467-200D-1F466 family_woman_girl_boy
   1F469-200D-1F467-200D-1F467 family_woman_girl_girl
   1F469-200D-1F469-200D-1F466 family_woman_woman_boy
   1F469-200D-1F469-200D-1F466-200D-1F466 family_woman_woman_boy_boy
   1F469-200D-1F469-200D-1F467 family_woman_woman_girl
   1F469-200D-1F469-200D-1F467-200D-1F466 family_woman_woman_girl_boy
   1F469-200D-1F469-200D-1F467-200D-1F467 family_woman_woman_girl_girl
   1F469-200D-1F4BB woman_technologist
   1F469-200D-1F4BC woman_office_worker
   1F469-200D-1F527 woman_mechanic
   1F469-200D-1F52C woman_scientist
   1F469-200D-1F680 woman_astronaut
   1F469-200D-1F692 woman_firefighter
   1F469-200D-1F9AF woman_with_probing_cane
   1F469-200D-1F9B0 red-haired_woman
   1F469-200D-1F9B1 curly-haired_woman
   1F469-200D-1F9B2 bald_woman
   1F469-200D-1F9B3 white-haired_woman
   1F469-200D-1F9BC woman_in_motorized_wheelchair
   1F469-200D-1F9BD woman_in_manual_wheelchair
   1F46A family
   1F46B man_and_woman_holding_hands couple
   1F46C two_men_holding_hands
   1F46D two_women_holding_hands
   1F46E police_officer cop
   1F46E-200D-2640-FE0F woman_police_officer
   1F46E-200D-2642-FE0F man_police_officer
   1F46F people_with_bunny_ears dancers
   1F46F-200D-2640-FE0F women_with_bunny_ears
   1F46F-200D-2642-FE0F men_with_bunny_ears
   1F470 bride_with_veil
   1F471 blond-haired_person person_with_blond_hair
   1F471-200D-2640-FE0F blond-haired_woman
   1F471-200D-2642-FE0F blond-haired_man
   1F472 man_with_chinese_cap man_with_gua_pi_mao
   1F473 person_wearing_turban man_with_turban
   1F473-200D-2640-FE0F woman_wearing_turban
   1F473-200D-2642-FE0F man_wearing_turban
   1F474 old_man older_man
   1F475 old_woman older_woman
   1F476 baby
   1F477 construction_worker
   1F477-200D-2640-FE0F woman_construction_worker
   1F477-200D-2642-FE0F man_construction_worker
   1F478 princess
   1F479 ogre japanese_ogre
   1F47A goblin japanese_goblin
   1F47B ghost
   1F47C baby_angel angel
   1F47D alien
   1F47E alien_monster space_invader
   1F47F angry_face_with_horns imp
   1F480 skull
   1F481 person_tipping_hand information_desk_person
   1F481-200D-2640-FE0F woman_tipping_hand
   1F481-200D-2642-FE0F man_tipping_hand
   1F482 guard guardsman
   1F482-200D-2640-FE0F woman_guard
   1F482-200D-2642-FE0F man_guard
   1F483 woman_dancing dancer
   1F484 lipstick
   1F485 nail_polish nail_care
   1F486 person_getting_massage massage
   1F486-200D-2640-FE0F woman_getting_massage
   1F486-200D-2642-FE0F man_getting_massage
   1F487 person_getting_haircut haircut
   1F487-200D-2640-FE0F woman_getting_haircut
   1F487-200D-2642-FE0F man_getting_haircut
   1F488 barber_pole barber
   1F489 syringe
   1F48A pill
   1F48B kiss kiss_mark
   1F48C love_letter
   1F48D ring
   1F48E gem_stone gem
   1F48F couplekiss
   1F490 bouquet
   1F491 couple_with_heart
   1F492 wedding
   1F493 beating_heart heartbeat
   1F494 broken_heart
   1F495 two_hearts
   1F496 sparkling_heart
   1F497 growing_heart heartpulse
   1F498 heart_with_arrow cupid
   1F499 blue_heart
   1F49A green_heart
   1F49B yellow_heart
   1F49C purple_heart
   1F49D heart_with_ribbon gift_heart
   1F49E revolving_hearts
   1F49F heart_decoration
   1F4A0 diamond_with_a_dot diamond_shape_with_a_dot_inside
   1F4A1 light_bulb bulb
   1F4A2 anger_symbol anger
   1F4A3 bomb
   1F4A4 zzz
   1F4A5 collision boom
   1F4A6 sweat_droplets sweat_drops
   1F4A7 droplet
   1F4A8 dashing_away dash
   1F4A9 pile_of_poo hankey poop shit
   1F4AA flexed_biceps muscle
   1F4AB dizzy
   1F4AC speech_balloon
   1F4AD thought_balloon
   1F4AE white_flower
   1F4AF hundred_points 100
   1F4B0 money_bag moneybag
   1F4B1 currency_exchange
   1F4B2 heavy_dollar_sign
   1F4B3 credit_card
   1F4B4 yen_banknote yen
   1F4B5 dollar_banknote dollar
   1F4B6 euro_banknote euro
   1F4B7 pound_banknote pound
   1F4B8 money_with_wings
   1F4B9 chart_increasing_with_yen chart
   1F4BA seat
   1F4BB laptop_computer computer
   1F4BC briefcase
   1F4BD computer_disk minidisc
   1F4BE floppy_disk
   1F4BF optical_disk cd
   1F4C0 dvd
   1F4C1 file_folder
   1F4C2 open_file_folder
   1F4C3 page_with_curl
   1F4C4 page_facing_up
   1F4C5 date
   1F4C6 calendar tear-off_calendar
   1F4C7 card_index
   1F4C8 chart_increasing chart_with_upwards_trend
   1F4C9 chart_decreasing chart_with_downwards_trend
   1F4CA bar_chart
   1F4CB clipboard
   1F4CC pushpin
   1F4CD round_pushpin
   1F4CE paperclip
   1F4CF straight_ruler
   1F4D0 triangular_ruler
   1F4D1 bookmark_tabs
   1F4D2 ledger
   1F4D3 notebook
   1F4D4 notebook_with_decorative_cover
   1F4D5 closed_book
   1F4D6 open_book book
   1F4D7 green_book
   1F4D8 blue_book
   1F4D9 orange_book
   1F4DA books
   1F4DB name_badge
   1F4DC scroll
   1F4DD memo pencil
   1F4DE telephone_receiver
   1F4DF pager
   1F4E0 fax_machine fax
   1F4E1 satellite satellite_antenna
   1F4E2 loudspeaker
   1F4E3 megaphone mega
   1F4E4 outbox_tray
   1F4E5 inbox_tray
   1F4E6 package
   1F4E7 e-mail e__mail
   1F4E8 incoming_envelope
   1F4E9 envelope_with_arrow
   1F4EA closed_mailbox_with_lowered_flag mailbox_closed
   1F4EB closed_mailbox_with_raised_flag mailbox
   1F4EC open_mailbox_with_raised_flag mailbox_with_mail
   1F4ED open_mailbox_with_lowered_flag mailbox_with_no_mail
   1F4EE postbox
   1F4EF postal_horn
   1F4F0 newspaper
   1F4F1 mobile_phone iphone
   1F4F2 mobile_phone_with_arrow calling
   1F4F3 vibration_mode
   1F4F4 mobile_phone_off
   1F4F5 no_mobile_phones
   1F4F6 antenna_bars signal_strength
   1F4F7 camera
   1F4F8 camera_with_flash
   1F4F9 video_camera
   1F4FA television tv
   1F4FB radio
   1F4FC videocassette vhs
   1F4FD film_projector
   1F4FF prayer_beads
   1F500 shuffle_tracks_button twisted_rightwards_arrows
   1F501 repeat_button repeat
   1F502 repeat_single_button repeat_one
   1F503 clockwise_vertical_arrows arrows_clockwise
   1F504 counterclockwise_arrows_button arrows_counterclockwise
   1F505 dim_button low_brightness
   1F506 bright_button high_brightness
   1F507 muted_speaker mute
   1F508 speaker_low_volume speaker
   1F509 speaker_medium_volume sound
   1F50A speaker_high_volume loud_sound
   1F50B battery
   1F50C electric_plug
   1F50D magnifying_glass_tilted_left mag
   1F50E magnifying_glass_tilted_right mag_right
   1F50F locked_with_pen lock_with_ink_pen
   1F510 locked_with_key closed_lock_with_key
   1F511 key
   1F512 locked lock
   1F513 unlocked unlock
   1F514 bell
   1F515 bell_with_slash no_bell
   1F516 bookmark
   1F517 link
   1F518 radio_button
   1F519 back_arrow back
   1F51A end_arrow end
   1F51B on!_arrow on
   1F51C soon_arrow soon
   1F51D top_arrow top
   1F51E no_one_under_eighteen underage
   1F51F keycap_10 ten
   1F520 input_latin_uppercase capital_abcd
   1F521 input_latin_lowercase abcd
   1F522 input_numbers 1234
   1F523 input_symbols symbols
   1F524 input_latin_letters abc
   1F525 fire
   1F526 flashlight
   1F527 wrench
   1F528 hammer
   1F529 nut_and_bolt
   1F52A kitchen_knife hocho knife
   1F52B pistol gun
   1F52C microscope
   1F52D telescope
   1F52E crystal_ball
   1F52F dotted_six-pointed_star six_pointed_star
   1F530 japanese_symbol_for_beginner beginner
   1F531 trident_emblem trident
   1F532 black_square_button
   1F533 white_square_button
   1F534 red_circle
   1F535 blue_circle large_blue_circle
   1F536 large_orange_diamond
   1F537 large_blue_diamond
   1F538 small_orange_diamond
   1F539 small_blue_diamond
   1F53A red_triangle_pointed_up small_red_triangle
   1F53B red_triangle_pointed_down small_red_triangle_down
   1F53C upwards_button arrow_up_small
   1F53D downwards_button arrow_down_small
   1F549 om om_symbol
   1F54A dove dove_of_peace
   1F54B kaaba
   1F54C mosque
   1F54D synagogue
   1F54E menorah menorah_with_nine_branches
   1F550 one_o’clock clock1
   1F551 two_o’clock clock2
   1F552 three_o’clock clock3
   1F553 four_o’clock clock4
   1F554 five_o’clock clock5
   1F555 six_o’clock clock6
   1F556 seven_o’clock clock7
   1F557 eight_o’clock clock8
   1F558 nine_o’clock clock9
   1F559 ten_o’clock clock10
   1F55A eleven_o’clock clock11
   1F55B twelve_o’clock clock12
   1F55C one-thirty clock130
   1F55D two-thirty clock230
   1F55E three-thirty clock330
   1F55F four-thirty clock430
   1F560 five-thirty clock530
   1F561 six-thirty clock630
   1F562 seven-thirty clock730
   1F563 eight-thirty clock830
   1F564 nine-thirty clock930
   1F565 ten-thirty clock1030
   1F566 eleven-thirty clock1130
   1F567 twelve-thirty clock1230
   1F56F candle
   1F570 mantelpiece_clock
   1F573 hole
   1F574 man_in_suit_levitating man_in_business_suit_levitating
   1F575 detective sleuth_or_spy
   1F575-FE0F-200D-2640-FE0F woman_detective
   1F575-FE0F-200D-2642-FE0F man_detective
   1F576 dark_sunglasses
   1F577 spider
   1F578 spider_web
   1F579 joystick
   1F57A man_dancing
   1F587 linked_paperclips
   1F58A pen lower_left_ballpoint_pen
   1F58B fountain_pen lower_left_fountain_pen
   1F58C paintbrush lower_left_paintbrush
   1F58D crayon lower_left_crayon
   1F590 hand_with_fingers_splayed raised_hand_with_fingers_splayed
   1F595 middle_finger reversed_hand_with_middle_finger_extended
   1F596 vulcan_salute raised_hand_with_part_between_middle_and_ring_fingers
   1F5A4 black_heart
   1F5A5 desktop_computer
   1F5A8 printer
   1F5B1 computer_mouse three_button_mouse
   1F5B2 trackball
   1F5BC framed_picture frame_with_picture
   1F5C2 card_index_dividers
   1F5C3 card_file_box
   1F5C4 file_cabinet
   1F5D1 wastebasket
   1F5D2 spiral_notepad spiral_note_pad
   1F5D3 spiral_calendar spiral_calendar_pad
   1F5DC clamp compression
   1F5DD old_key
   1F5DE rolled-up_newspaper rolled__up_newspaper
   1F5E1 dagger dagger_knife
   1F5E3 speaking_head speaking_head_in_silhouette
   1F5E8 left_speech_bubble
   1F5EF right_anger_bubble
   1F5F3 ballot_box_with_ballot
   1F5FA world_map
   1F5FB mount_fuji
   1F5FC tokyo_tower
   1F5FD statue_of_liberty
   1F5FE japan map_of_japan
   1F5FF moai moyai
   1F600 grinning_face grinning
   1F601 beaming_face_with_smiling_eyes grin
   1F602 face_with_tears_of_joy joy
   1F603 grinning_face_with_big_eyes smiley
   1F604 grinning_face_with_smiling_eyes smile
   1F605 grinning_face_with_sweat sweat_smile
   1F606 grinning_squinting_face laughing satisfied
   1F607 smiling_face_with_halo innocent
   1F608 smiling_face_with_horns smiling_imp
   1F609 winking_face wink
   1F60A smiling_face_with_smiling_eyes blush
   1F60B face_savoring_food yum
   1F60C relieved_face relieved
   1F60D smiling_face_with_heart-eyes heart_eyes
   1F60E smiling_face_with_sunglasses sunglasses
   1F60F smirking_face smirk
   1F610 neutral_face
   1F611 expressionless_face expressionless
   1F612 unamused_face unamused
   1F613 downcast_face_with_sweat sweat
   1F614 pensive_face pensive
   1F615 confused_face confused
   1F616 confounded_face confounded
   1F617 kissing_face kissing
   1F618 face_blowing_a_kiss kissing_heart
   1F619 kissing_face_with_smiling_eyes kissing_smiling_eyes
   1F61A kissing_face_with_closed_eyes kissing_closed_eyes
   1F61B face_with_tongue stuck_out_tongue
   1F61C winking_face_with_tongue stuck_out_tongue_winking_eye
   1F61D squinting_face_with_tongue stuck_out_tongue_closed_eyes
   1F61E disappointed_face disappointed
   1F61F worried_face worried
   1F620 angry_face angry
   1F621 pouting_face rage
   1F622 crying_face cry
   1F623 persevering_face persevere
   1F624 face_with_steam_from_nose triumph
   1F625 sad_but_relieved_face disappointed_relieved
   1F626 frowning_face_with_open_mouth frowning
   1F627 anguished_face anguished
   1F628 fearful_face fearful
   1F629 weary_face weary
   1F62A sleepy_face sleepy
   1F62B tired_face
   1F62C grimacing_face grimacing
   1F62D loudly_crying_face sob
   1F62E face_with_open_mouth open_mouth
   1F62F hushed_face hushed
   1F630 anxious_face_with_sweat cold_sweat
   1F631 face_screaming_in_fear scream
   1F632 astonished_face astonished
   1F633 flushed_face flushed
   1F634 sleeping_face sleeping
   1F635 dizzy_face
   1F636 face_without_mouth no_mouth
   1F637 face_with_medical_mask mask
   1F638 grinning_cat_face_with_smiling_eyes smile_cat
   1F639 cat_face_with_tears_of_joy joy_cat
   1F63A grinning_cat_face smiley_cat
   1F63B smiling_cat_face_with_heart-eyes heart_eyes_cat
   1F63C cat_face_with_wry_smile smirk_cat
   1F63D kissing_cat_face kissing_cat
   1F63E pouting_cat_face pouting_cat
   1F63F crying_cat_face
   1F640 weary_cat_face scream_cat
   1F641 slightly_frowning_face
   1F642 slightly_smiling_face
   1F643 upside-down_face upside__down_face
   1F644 face_with_rolling_eyes
   1F645 person_gesturing_no no_good
   1F645-200D-2640-FE0F woman_gesturing_no
   1F645-200D-2642-FE0F man_gesturing_no
   1F646 person_gesturing_ok ok_woman
   1F646-200D-2640-FE0F woman_gesturing_ok
   1F646-200D-2642-FE0F man_gesturing_ok
   1F647 person_bowing bow
   1F647-200D-2640-FE0F woman_bowing
   1F647-200D-2642-FE0F man_bowing
   1F648 see-no-evil_monkey see_no_evil
   1F649 hear-no-evil_monkey hear_no_evil
   1F64A speak-no-evil_monkey speak_no_evil
   1F64B person_raising_hand raising_hand
   1F64B-200D-2640-FE0F woman_raising_hand
   1F64B-200D-2642-FE0F man_raising_hand
   1F64C raising_hands raised_hands
   1F64D person_frowning
   1F64D-200D-2640-FE0F woman_frowning
   1F64D-200D-2642-FE0F man_frowning
   1F64E person_pouting person_with_pouting_face
   1F64E-200D-2640-FE0F woman_pouting
   1F64E-200D-2642-FE0F man_pouting
   1F64F folded_hands pray
   1F680 rocket
   1F681 helicopter
   1F682 locomotive steam_locomotive
   1F683 railway_car
   1F684 high-speed_train bullettrain_side
   1F685 bullet_train bullettrain_front
   1F686 train2
   1F687 metro
   1F688 light_rail
   1F689 station
   1F68A tram
   1F68B train tram_car
   1F68C bus
   1F68D oncoming_bus
   1F68E trolleybus
   1F68F bus_stop busstop
   1F690 minibus
   1F691 ambulance
   1F692 fire_engine
   1F693 police_car
   1F694 oncoming_police_car
   1F695 taxi
   1F696 oncoming_taxi
   1F697 automobile car red_car
   1F698 oncoming_automobile
   1F699 sport_utility_vehicle blue_car
   1F69A delivery_truck truck
   1F69B articulated_lorry
   1F69C tractor
   1F69D monorail
   1F69E mountain_railway
   1F69F suspension_railway
   1F6A0 mountain_cableway
   1F6A1 aerial_tramway
   1F6A2 ship
   1F6A3 person_rowing_boat rowboat
   1F6A3-200D-2640-FE0F woman_rowing_boat
   1F6A3-200D-2642-FE0F man_rowing_boat
   1F6A4 speedboat
   1F6A5 horizontal_traffic_light traffic_light
   1F6A6 vertical_traffic_light
   1F6A7 construction
   1F6A8 police_car_light rotating_light
   1F6A9 triangular_flag triangular_flag_on_post
   1F6AA door
   1F6AB prohibited no_entry_sign
   1F6AC cigarette smoking
   1F6AD no_smoking
   1F6AE litter_in_bin_sign put_litter_in_its_place
   1F6AF no_littering do_not_litter
   1F6B0 potable_water
   1F6B1 non-potable_water non__potable_water
   1F6B2 bicycle bike
   1F6B3 no_bicycles
   1F6B4 person_biking bicyclist
   1F6B4-200D-2640-FE0F woman_biking
   1F6B4-200D-2642-FE0F man_biking
   1F6B5 person_mountain_biking mountain_bicyclist
   1F6B5-200D-2640-FE0F woman_mountain_biking
   1F6B5-200D-2642-FE0F man_mountain_biking
   1F6B6 person_walking walking
   1F6B6-200D-2640-FE0F woman_walking
   1F6B6-200D-2642-FE0F man_walking
   1F6B7 no_pedestrians
   1F6B8 children_crossing
   1F6B9 men’s_room mens
   1F6BA women’s_room womens
   1F6BB restroom
   1F6BC baby_symbol
   1F6BD toilet
   1F6BE water_closet wc
   1F6BF shower
   1F6C0 person_taking_bath bath
   1F6C1 bathtub
   1F6C2 passport_control
   1F6C3 customs
   1F6C4 baggage_claim
   1F6C5 left_luggage
   1F6CB couch_and_lamp
   1F6CC person_in_bed sleeping_accommodation
   1F6CD shopping_bags
   1F6CE bellhop_bell
   1F6CF bed
   1F6D0 place_of_worship
   1F6D1 stop_sign
   1F6D2 shopping_cart
   1F6D5 hindu_temple
   1F6E0 hammer_and_wrench
   1F6E1 shield
   1F6E2 oil_drum
   1F6E3 motorway
   1F6E4 railway_track
   1F6E5 motor_boat
   1F6E9 small_airplane
   1F6EB airplane_departure
   1F6EC airplane_arrival airplane_arriving
   1F6F3 passenger_ship
   1F6F4 kick_scooter
   1F6F5 motor_scooter
   1F6F6 canoe
   1F6F7 sled
   1F6F8 flying_saucer
   1F6F9 skateboard
   1F6FA auto_rickshaw
   1F7E0 orange_circle
   1F7E1 yellow_circle
   1F7E2 green_circle
   1F7E3 purple_circle
   1F7E4 brown_circle
   1F7E5 red_square
   1F7E6 blue_square
   1F7E7 orange_square
   1F7E8 yellow_square
   1F7E9 green_square
   1F7EA purple_square
   1F7EB brown_square
   1F90D white_heart
   1F90E brown_heart
   1F90F pinching_hand
   1F910 zipper-mouth_face zipper__mouth_face
   1F911 money-mouth_face money__mouth_face
   1F912 face_with_thermometer
   1F913 nerd_face
   1F914 thinking_face
   1F915 face_with_head-bandage face_with_head__bandage
   1F916 robot_face robot
   1F917 hugging_face
   1F918 sign_of_the_horns
   1F919 call_me_hand
   1F91A raised_back_of_hand
   1F91B left-facing_fist
   1F91C right-facing_fist
   1F91D handshake
   1F91E crossed_fingers
   1F91F love-you_gesture
   1F920 cowboy_hat_face
   1F921 clown_face
   1F922 nauseated_face
   1F923 rolling_on_the_floor_laughing
   1F924 drooling_face
   1F925 lying_face
   1F926 person_facepalming
   1F926-200D-2640-FE0F woman_facepalming
   1F926-200D-2642-FE0F man_facepalming
   1F927 sneezing_face
   1F928 face_with_raised_eyebrow
   1F929 star-struck
   1F92A zany_face
   1F92B shushing_face
   1F92C face_with_symbols_on_mouth
   1F92D face_with_hand_over_mouth
   1F92E face_vomiting
   1F92F exploding_head
   1F930 pregnant_woman
   1F931 breast-feeding
   1F932 palms_up_together
   1F933 selfie
   1F934 prince
   1F935 man_in_tuxedo
   1F936 mrs._claus
   1F937 person_shrugging
   1F937-200D-2640-FE0F woman_shrugging
   1F937-200D-2642-FE0F man_shrugging
   1F938 person_cartwheeling
   1F938-200D-2640-FE0F woman_cartwheeling
   1F938-200D-2642-FE0F man_cartwheeling
   1F939 person_juggling
   1F939-200D-2640-FE0F woman_juggling
   1F939-200D-2642-FE0F man_juggling
   1F93A person_fencing
   1F93C people_wrestling
   1F93C-200D-2640-FE0F women_wrestling
   1F93C-200D-2642-FE0F men_wrestling
   1F93D person_playing_water_polo
   1F93D-200D-2640-FE0F woman_playing_water_polo
   1F93D-200D-2642-FE0F man_playing_water_polo
   1F93E person_playing_handball
   1F93E-200D-2640-FE0F woman_playing_handball
   1F93E-200D-2642-FE0F man_playing_handball
   1F93F diving_mask
   1F940 wilted_flower
   1F941 drum
   1F942 clinking_glasses
   1F943 tumbler_glass
   1F944 spoon
   1F945 goal_net
   1F947 1st_place_medal
   1F948 2nd_place_medal
   1F949 3rd_place_medal
   1F94A boxing_glove
   1F94B martial_arts_uniform
   1F94C curling_stone
   1F94D lacrosse
   1F94E softball
   1F94F flying_disc
   1F950 croissant
   1F951 avocado
   1F952 cucumber
   1F953 bacon
   1F954 potato
   1F955 carrot
   1F956 baguette_bread
   1F957 green_salad
   1F958 shallow_pan_of_food
   1F959 stuffed_flatbread
   1F95B glass_of_milk
   1F95C peanuts
   1F95D kiwi_fruit
   1F95E pancakes
   1F95F dumpling
   1F960 fortune_cookie
   1F961 takeout_box
   1F962 chopsticks
   1F963 bowl_with_spoon
   1F964 cup_with_straw
   1F965 coconut
   1F966 broccoli
   1F967 pie
   1F968 pretzel
   1F969 cut_of_meat
   1F96A sandwich
   1F96B canned_food
   1F96C leafy_green
   1F96D mango
   1F96E moon_cake
   1F96F bagel
   1F970 smiling_face_with_3_hearts
   1F971 yawning_face
   1F973 partying_face
   1F974 woozy_face
   1F975 hot_face
   1F976 cold_face
   1F97A pleading_face
   1F97B sari
   1F97C lab_coat
   1F97D goggles
   1F97E hiking_boot
   1F97F flat_shoe
   1F980 crab
   1F981 lion_face
   1F982 scorpion
   1F983 turkey
   1F984 unicorn_face
   1F985 eagle
   1F986 duck
   1F987 bat
   1F988 shark
   1F989 owl
   1F98A fox_face
   1F98B butterfly
   1F98C deer
   1F98D gorilla
   1F98E lizard
   1F98F rhinoceros
   1F990 shrimp
   1F991 squid
   1F992 giraffe
   1F993 zebra
   1F994 hedgehog
   1F995 sauropod
   1F996 t-rex
   1F997 cricket
   1F998 kangaroo
   1F999 llama
   1F99A peacock
   1F99B hippopotamus
   1F99C parrot
   1F99D raccoon
   1F99E lobster
   1F99F mosquito
   1F9A0 microbe
   1F9A1 badger
   1F9A2 swan
   1F9A5 sloth
   1F9A6 otter
   1F9A7 orangutan
   1F9A8 skunk
   1F9A9 flamingo
   1F9AA oyster
   1F9AE guide_dog
   1F9AF probing_cane
   1F9B0 red_hair
   1F9B1 curly_hair
   1F9B2 bald
   1F9B3 white_hair
   1F9B4 bone
   1F9B5 leg
   1F9B6 foot
   1F9B7 tooth
   1F9B8 superhero
   1F9B9 supervillain
   1F9BA safety_vest
   1F9BB ear_with_hearing_aid
   1F9BC motorized_wheelchair
   1F9BD manual_wheelchair
   1F9BE mechanical_arm
   1F9BF mechanical_leg
   1F9C0 cheese_wedge
   1F9C1 cupcake
   1F9C2 salt
   1F9C3 beverage_box
   1F9C4 garlic
   1F9C5 onion
   1F9C6 falafel
   1F9C7 waffle
   1F9C8 butter
   1F9C9 mate
   1F9CA ice
   1F9CD person_standing
   1F9CE person_kneeling
   1F9CF deaf_person
   1F9D0 face_with_monocle
   1F9D1 adult
   1F9D1-200D-1F91D-200D-1F9D1 people_holding_hands
   1F9D2 child
   1F9D3 older_adult
   1F9D4 bearded_person
   1F9D5 woman_with_headscarf
   1F9D6 person_in_steamy_room
   1F9D6-200D-2640-FE0F woman_in_steamy_room
   1F9D6-200D-2642-FE0F man_in_steamy_room
   1F9D7 person_climbing
   1F9D7-200D-2640-FE0F woman_climbing
   1F9D7-200D-2642-FE0F man_climbing
   1F9D8 person_in_lotus_position
   1F9D8-200D-2640-FE0F woman_in_lotus_position
   1F9D8-200D-2642-FE0F man_in_lotus_position
   1F9D9 mage
   1F9D9-200D-2640-FE0F woman_mage
   1F9D9-200D-2642-FE0F man_mage
   1F9DA fairy
   1F9DA-200D-2640-FE0F woman_fairy
   1F9DA-200D-2642-FE0F man_fairy
   1F9DB vampire
   1F9DB-200D-2640-FE0F woman_vampire
   1F9DB-200D-2642-FE0F man_vampire
   1F9DC merperson
   1F9DC-200D-2640-FE0F mermaid
   1F9DC-200D-2642-FE0F merman
   1F9DD elf
   1F9DD-200D-2640-FE0F woman_elf
   1F9DD-200D-2642-FE0F man_elf
   1F9DE genie
   1F9DE-200D-2640-FE0F woman_genie
   1F9DE-200D-2642-FE0F man_genie
   1F9DF zombie
   1F9DF-200D-2640-FE0F woman_zombie
   1F9DF-200D-2642-FE0F man_zombie
   1F9E0 brain
   1F9E1 orange_heart
   1F9E2 billed_cap
   1F9E3 scarf
   1F9E4 gloves
   1F9E5 coat
   1F9E6 socks
   1F9E7 red_envelope
   1F9E8 firecracker
   1F9E9 jigsaw
   1F9EA test_tube
   1F9EB petri_dish
   1F9EC dna
   1F9ED compass
   1F9EE abacus
   1F9EF fire_extinguisher
   1F9F0 toolbox
   1F9F1 brick
   1F9F2 magnet
   1F9F3 luggage
   1F9F4 lotion_bottle
   1F9F5 thread
   1F9F6 yarn
   1F9F7 safety_pin
   1F9F8 teddy_bear
   1F9F9 broom
   1F9FA basket
   1F9FB roll_of_paper
   1F9FC soap
   1F9FD sponge
   1F9FE receipt
   1F9FF nazar_amulet
   1FA70 ballet_shoes
   1FA71 one-piece_swimsuit
   1FA72 briefs
   1FA73 shorts
   1FA78 drop_of_blood
   1FA79 adhesive_bandage
   1FA7A stethoscope
   1FA80 yo-yo
   1FA81 kite
   1FA90 ringed_planet
   1FA91 chair
   1FA92 razor
   1FA93 axe
   1FA94 diya_lamp
   1FA95 banjo"

/-- The regions by their letters. -/
def regions : String :=
  "AC ascension_island
   AD andorra
   AE united_arab_emirates
   AF afghanistan
   AG antigua_&_barbuda
   AI anguilla
   AL albania
   AM armenia
   AO angola
   AQ antarctica
   AR argentina
   AS american_samoa
   AT austria
   AU australia
   AW aruba
   AX åland_islands
   AZ azerbaijan
   BA bosnia_&_herzegovina
   BB barbados
   BD bangladesh
   BE belgium
   BF burkina_faso
   BG bulgaria
   BH bahrain
   BI burundi
   BJ benin
   BL st._barthélemy
   BM bermuda
   BN brunei
   BO bolivia
   BQ caribbean_netherlands
   BR brazil
   BS bahamas
   BT bhutan
   BV bouvet_island
   BW botswana
   BY belarus
   BZ belize
   CA canada
   CF central_african_republic
   CH switzerland
   CI côte_d’ivoire
   CK cook_islands
   CL chile
   CM cameroon
   CN china
   CO colombia
   CP clipperton_island
   CR costa_rica
   CU cuba
   CV cape_verde
   CW curaçao
   CX christmas_island
   CY cyprus
   DE germany
   DG diego_garcia
   DJ djibouti
   DK denmark
   DM dominica
   DO dominican_republic
   DZ algeria
   EA ceuta_&_melilla
   EC ecuador
   EE estonia
   EG egypt
   EH western_sahara
   ER eritrea
   ES spain
   ET ethiopia
   EU european_union
   FI finland
   FJ fiji
   FK falkland_islands
   FM micronesia
   FO faroe_islands
   FR france
   GA gabon
   GB united_kingdom
   GD grenada
   GE georgia
   GF french_guiana
   GG guernsey
   GH ghana
   GI gibraltar
   GL greenland
   GM gambia
   GN guinea
   GP guadeloupe
   GQ equatorial_guinea
   GR greece
   GS south_georgia_&_south_sandwich_islands
   GT guatemala
   GU guam
   GY guyana
   HM heard_&_mcdonald_islands
   HN honduras
   HR croatia
   HT haiti
   HU hungary
   IC canary_islands
   ID indonesia
   IE ireland
   IL israel
   IM isle_of_man
   IN india
   IO british_indian_ocean_territory
   IQ iraq
   IR iran
   IS iceland
   IT italy
   JE jersey
   JM jamaica
   JO jordan
   KE kenya
   KG kyrgyzstan
   KH cambodia
   KI kiribati
   KM comoros
   KN st._kitts_&_nevis
   KP north_korea
   KR south_korea
   KW kuwait
   KY cayman_islands
   KZ kazakhstan
   LA laos
   LB lebanon
   LC st._lucia
   LI liechtenstein
   LK sri_lanka
   LR liberia
   LS lesotho
   LT lithuania
   LU luxembourg
   LV latvia
   LY libya
   MA morocco
   MC monaco
   MD moldova
   ME montenegro
   MF st._martin
   MG madagascar
   MH marshall_islands
   MK macedonia
   ML mali
   MN mongolia
   MP northern_mariana_islands
   MQ martinique
   MR mauritania
   MS montserrat
   MT malta
   MU mauritius
   MV maldives
   MW malawi
   MX mexico
   MY malaysia
   MZ mozambique
   NA namibia
   NC new_caledonia
   NE niger
   NF norfolk_island
   NG nigeria
   NI nicaragua
   NL netherlands
   NO norway
   NP nepal
   NR nauru
   NU niue
   NZ new_zealand
   OM oman
   PA panama
   PE peru
   PF french_polynesia
   PG papua_new_guinea
   PH philippines
   PK pakistan
   PL poland
   PM st._pierre_&_miquelon
   PN pitcairn_islands
   PR puerto_rico
   PS palestinian_territories
   PT portugal
   PW palau
   PY paraguay
   QA qatar
   RE réunion
   RO romania
   RS serbia
   RU russia
   RW rwanda
   SA saudi_arabia
   SB solomon_islands
   SC seychelles
   SD sudan
   SE sweden
   SG singapore
   SH st._helena
   SI slovenia
   SJ svalbard_&_jan_mayen
   SK slovakia
   SL sierra_leone
   SM san_marino
   SN senegal
   SO somalia
   SR suriname
   SS south_sudan
   ST são_tomé_&_príncipe
   SV el_salvador
   SX sint_maarten
   SY syria
   SZ swaziland
   TA tristan_da_cunha
   TC turks_&_caicos_islands
   TD chad
   TF french_southern_territories
   TG togo
   TH thailand
   TJ tajikistan
   TK tokelau
   TM turkmenistan
   TN tunisia
   TO tonga
   TT trinidad_&_tobago
   TV tuvalu
   TW taiwan
   TZ tanzania
   UA ukraine
   UG uganda
   UM u.s._outlying_islands
   US united_states
   UY uruguay
   UZ uzbekistan
   VA vatican_city
   VC st._vincent_&_grenadines
   VE venezuela
   VG british_virgin_islands
   VI u.s._virgin_islands
   VN vietnam
   VU vanuatu
   WF wallis_&_futuna
   WS samoa
   XK kosovo
   YE yemen
   YT mayotte
   ZA south_africa
   ZM zambia
   ZW zimbabwe"

/-- The names that a skin tone can be added to, of pictograms that show people or parts of them. -/
def toned : String :=
  "adult baby baby_angel backhand_index_pointing_down backhand_index_pointing_left
   backhand_index_pointing_right backhand_index_pointing_up bearded_person blond-haired_man
   blond-haired_person blond-haired_woman boy breast-feeding bride_with_veil call_me_hand child
   clapping_hands construction_worker crossed_fingers detective ear elf fairy flexed_biceps
   folded_hands girl guard hand_with_fingers_splayed horse_racing index_pointing_up
   left-facing_fist love-you_gesture mage man man_artist man_astronaut man_biking
   man_bouncing_ball man_bowing man_cartwheeling man_climbing man_construction_worker man_cook
   man_dancing man_detective man_elf man_facepalming man_factory_worker man_fairy man_farmer
   man_firefighter man_frowning man_gesturing_no man_gesturing_ok man_getting_haircut
   man_getting_massage man_golfing man_guard man_health_worker man_in_lotus_position
   man_in_steamy_room man_in_suit_levitating man_in_tuxedo man_judge man_juggling
   man_lifting_weights man_mage man_mechanic man_mountain_biking man_office_worker man_pilot
   man_playing_handball man_playing_water_polo man_police_officer man_pouting man_raising_hand
   man_rowing_boat man_running man_scientist man_shrugging man_singer man_student man_surfing
   man_swimming man_teacher man_technologist man_tipping_hand man_vampire man_walking
   man_wearing_turban man_with_chinese_cap mermaid merman merperson middle_finger mrs._claus
   nail_polish nose ok_hand old_man old_woman older_adult oncoming_fist open_hands
   palms_up_together person_biking person_bouncing_ball person_bowing person_cartwheeling
   person_climbing person_facepalming person_frowning person_gesturing_no person_gesturing_ok
   person_getting_haircut person_getting_massage person_golfing person_in_bed
   person_in_lotus_position person_in_steamy_room person_juggling person_lifting_weights
   person_mountain_biking person_playing_handball person_playing_water_polo person_pouting
   person_raising_hand person_rowing_boat person_running person_shrugging person_surfing
   person_swimming person_taking_bath person_tipping_hand person_walking person_wearing_turban
   police_officer pregnant_woman prince princess raised_back_of_hand raised_fist raised_hand
   raising_hands right-facing_fist santa_claus selfie sign_of_the_horns snowboarder thumbs_down
   thumbs_up vampire victory_hand vulcan_salute waving_hand woman woman_artist woman_astronaut
   woman_biking woman_bouncing_ball woman_bowing woman_cartwheeling woman_climbing
   woman_construction_worker woman_cook woman_dancing woman_detective woman_elf woman_facepalming
   woman_factory_worker woman_fairy woman_farmer woman_firefighter woman_frowning
   woman_gesturing_no woman_gesturing_ok woman_getting_haircut woman_getting_massage
   woman_golfing woman_guard woman_health_worker woman_in_lotus_position woman_in_steamy_room
   woman_judge woman_juggling woman_lifting_weights woman_mage woman_mechanic
   woman_mountain_biking woman_office_worker woman_pilot woman_playing_handball
   woman_playing_water_polo woman_police_officer woman_pouting woman_raising_hand
   woman_rowing_boat woman_running woman_scientist woman_shrugging woman_singer woman_student
   woman_surfing woman_swimming woman_teacher woman_technologist woman_tipping_hand woman_vampire
   woman_walking woman_wearing_turban woman_with_headscarf writing_hand"

end Pictogram
end Text
end Taskboard
