import QueryFoundry.Text.Octets

/-!
# Headers about types

The headers of C++ that ask about types, and those of plain values.
-/

namespace QueryFoundry.Native.Headers

open Text (Octets)

/-- Values between braces. -/
def initializerLists : Octets := "
 #include <cstddef>
 namespace std <%
 template <class T> class initializer_list <%
   const T *__first; size_t __count;
 public:
   typedef T value_type; typedef const T &reference; typedef const T &const_reference;
   typedef size_t size_type; typedef const T *iterator; typedef const T *const_iterator;
   constexpr initializer_list() noexcept : __first(nullptr), __count(0) <%%>
   constexpr initializer_list(const T *first, size_t count) : __first(first), __count(count) <%%>
   constexpr size_t size() const noexcept <% return __count; %>
   constexpr const T *begin() const noexcept <% return __first; %>
   constexpr const T *end() const noexcept <% return __first + __count; %>
 %>;
 template <class T> constexpr const T *begin(initializer_list<T> list) noexcept <%
   return list.begin(); %>
 template <class T> constexpr const T *end(initializer_list<T> list) noexcept <%
   return list.end(); %>
 %>
"

/-- Questions about types, and types that follow from others. -/
def typeTraits : Octets := "
 #include <cstddef>
 namespace std <%
 template <class T, T v> struct integral_constant <%
   static constexpr T value = v;
   typedef T value_type; typedef integral_constant type;
   constexpr operator T() const noexcept <% return v; %>
   constexpr T operator()() const noexcept <% return v; %>
 %>;
 template <class T, T v> constexpr T integral_constant<T, v>::value;
 typedef integral_constant<bool, true> true_type;
 typedef integral_constant<bool, false> false_type;
 template <bool b> using bool_constant = integral_constant<bool, b>;
 template <bool, class T = void> struct enable_if <%%>;
 template <class T> struct enable_if<true, T> <% typedef T type; %>;
 template <bool b, class T = void> using enable_if_t = typename enable_if<b, T>::type;
 template <bool, class T, class U> struct conditional <% typedef T type; %>;
 template <class T, class U> struct conditional<false, T, U> <% typedef U type; %>;
 template <bool b, class T, class U> using conditional_t = typename conditional<b, T, U>::type;
 template <class...> using void_t = void;
 template <class T, class U> struct is_same : false_type <%%>;
 template <class T> struct is_same<T, T> : true_type <%%>;
 template <class T> struct remove_const <% typedef T type; %>;
 template <class T> struct remove_const<const T> <% typedef T type; %>;
 template <class T> struct remove_volatile <% typedef T type; %>;
 template <class T> struct remove_cv <% typedef typename remove_const<T>::type type; %>;
 template <class T> struct remove_reference <% typedef T type; %>;
 template <class T> struct remove_reference<T &> <% typedef T type; %>;
 template <class T> struct remove_reference<T &&> <% typedef T type; %>;
 template <class T> struct remove_cvref <%
   typedef typename remove_cv<typename remove_reference<T>::type>::type type; %>;
 template <class T> struct remove_pointer <% typedef T type; %>;
 template <class T> struct remove_pointer<T *> <% typedef T type; %>;
 template <class T> struct remove_pointer<T *const> <% typedef T type; %>;
 template <class T> struct remove_extent <% typedef T type; %>;
 template <class T> struct remove_extent<T[]> <% typedef T type; %>;
 template <class T, size_t n> struct remove_extent<T[n]> <% typedef T type; %>;
 template <class T> struct remove_all_extents <% typedef T type; %>;
 template <class T> struct remove_all_extents<T[]> <%
   typedef typename remove_all_extents<T>::type type; %>;
 template <class T, size_t n> struct remove_all_extents<T[n]> <%
   typedef typename remove_all_extents<T>::type type; %>;
 template <class T> struct is_void : is_same<void, typename remove_cv<T>::type> <%%>;
 template <class T> struct __is_referable : true_type <%%>;
 template <> struct __is_referable<void> : false_type <%%>;
 template <> struct __is_referable<const void> : false_type <%%>;
 template <class T, bool = __is_referable<T>::value> struct add_lvalue_reference <%
   typedef T &type; %>;
 template <class T> struct add_lvalue_reference<T, false> <% typedef T type; %>;
 template <class T, bool = __is_referable<T>::value> struct add_rvalue_reference <%
   typedef T &&type; %>;
 template <class T> struct add_rvalue_reference<T, false> <% typedef T type; %>;
 template <class T> struct add_const <% typedef const T type; %>;
 template <class T> struct add_volatile <% typedef T type; %>;
 template <class T> struct add_cv <% typedef const T type; %>;
 template <class T> struct add_pointer <% typedef typename remove_reference<T>::type *type; %>;
 template <class T> using remove_const_t = typename remove_const<T>::type;
 template <class T> using remove_cv_t = typename remove_cv<T>::type;
 template <class T> using remove_volatile_t = typename remove_volatile<T>::type;
 template <class T> using remove_reference_t = typename remove_reference<T>::type;
 template <class T> using remove_cvref_t = typename remove_cvref<T>::type;
 template <class T> using remove_pointer_t = typename remove_pointer<T>::type;
 template <class T> using remove_extent_t = typename remove_extent<T>::type;
 template <class T> using remove_all_extents_t = typename remove_all_extents<T>::type;
 template <class T> using add_const_t = typename add_const<T>::type;
 template <class T> using add_lvalue_reference_t = typename add_lvalue_reference<T>::type;
 template <class T> using add_rvalue_reference_t = typename add_rvalue_reference<T>::type;
 template <class T> using add_pointer_t = typename add_pointer<T>::type;
 template <class T> typename add_rvalue_reference<T>::type declval() noexcept;
 template <class T> struct __is_integral : false_type <%%>;
 template <> struct __is_integral<bool> : true_type <%%>;
 template <> struct __is_integral<char> : true_type <%%>;
 template <> struct __is_integral<signed char> : true_type <%%>;
 template <> struct __is_integral<unsigned char> : true_type <%%>;
 template <> struct __is_integral<wchar_t> : true_type <%%>;
 template <> struct __is_integral<char16_t> : true_type <%%>;
 template <> struct __is_integral<char32_t> : true_type <%%>;
 template <> struct __is_integral<short> : true_type <%%>;
 template <> struct __is_integral<unsigned short> : true_type <%%>;
 template <> struct __is_integral<int> : true_type <%%>;
 template <> struct __is_integral<unsigned> : true_type <%%>;
 template <> struct __is_integral<long> : true_type <%%>;
 template <> struct __is_integral<unsigned long> : true_type <%%>;
 template <> struct __is_integral<long long> : true_type <%%>;
 template <> struct __is_integral<unsigned long long> : true_type <%%>;
 template <class T> struct is_integral
     : bool_constant<__is_integral<typename remove_cv<T>::type>::value> <%%>;
 template <class T> struct __is_floating : false_type <%%>;
 template <> struct __is_floating<float> : true_type <%%>;
 template <> struct __is_floating<double> : true_type <%%>;
 template <> struct __is_floating<long double> : true_type <%%>;
 template <class T> struct is_floating_point
     : bool_constant<__is_floating<typename remove_cv<T>::type>::value> <%%>;
 template <class T> struct is_arithmetic
     : bool_constant<is_integral<T>::value || is_floating_point<T>::value> <%%>;
 template <class T> struct is_null_pointer
     : is_same<decltype(nullptr), typename remove_cv<T>::type> <%%>;
 template <class T> struct is_fundamental : bool_constant<is_arithmetic<T>::value ||
     is_void<T>::value || is_null_pointer<T>::value> <%%>;
 template <class T> struct __is_pointer : false_type <%%>;
 template <class T> struct __is_pointer<T *> : true_type <%%>;
 template <class T> struct is_pointer
     : bool_constant<__is_pointer<typename remove_cv<T>::type>::value> <%%>;
 template <class T> struct is_lvalue_reference : false_type <%%>;
 template <class T> struct is_lvalue_reference<T &> : true_type <%%>;
 template <class T> struct is_rvalue_reference : false_type <%%>;
 template <class T> struct is_rvalue_reference<T &&> : true_type <%%>;
 template <class T> struct is_reference : bool_constant<
     is_lvalue_reference<T>::value || is_rvalue_reference<T>::value> <%%>;
 template <class T> struct is_const : false_type <%%>;
 template <class T> struct is_const<const T> : true_type <%%>;
 template <class T> struct is_volatile : false_type <%%>;
 template <class T> struct is_array : false_type <%%>;
 template <class T> struct is_array<T[]> : true_type <%%>;
 template <class T, size_t n> struct is_array<T[n]> : true_type <%%>;
 template <class T> struct is_function : bool_constant<__is_function(T)> <%%>;
 template <class T> struct __is_member_pointer : false_type <%%>;
 template <class T, class C> struct __is_member_pointer<T C::*> : true_type <%%>;
 template <class T> struct is_member_pointer
     : bool_constant<__is_member_pointer<typename remove_cv<T>::type>::value> <%%>;
 template <class T> struct __is_member_function : false_type <%%>;
 template <class T, class C> struct __is_member_function<T C::*>
     : bool_constant<__is_function(T)> <%%>;
 template <class T> struct is_member_function_pointer
     : bool_constant<__is_member_function<typename remove_cv<T>::type>::value> <%%>;
 template <class T> struct is_member_object_pointer : bool_constant<
     is_member_pointer<T>::value && !is_member_function_pointer<T>::value> <%%>;
 template <class T> struct is_enum : bool_constant<__is_enum(T)> <%%>;
 template <class T> struct is_class : bool_constant<__is_class(T)> <%%>;
 template <class T> struct is_union : bool_constant<__is_union(T)> <%%>;
 template <class T> struct is_scalar : bool_constant<is_arithmetic<T>::value ||
     __is_enum(T) || is_pointer<T>::value || is_member_pointer<T>::value ||
     is_null_pointer<T>::value> <%%>;
 template <class T> struct is_object : bool_constant<!is_function<T>::value &&
     !is_reference<T>::value && !is_void<T>::value> <%%>;
 template <class T> struct is_compound : bool_constant<!is_fundamental<T>::value> <%%>;
 template <class T, bool = is_arithmetic<T>::value> struct __is_signed : false_type <%%>;
 template <class T> struct __is_signed<T, true> : bool_constant<(T(-1) < T(0))> <%%>;
 template <class T> struct is_signed : __is_signed<T> <%%>;
 template <class T> struct is_unsigned
     : bool_constant<is_arithmetic<T>::value && !is_signed<T>::value> <%%>;
 template <class T> struct is_abstract : bool_constant<__is_abstract(T)> <%%>;
 template <class T> struct is_final : bool_constant<__is_final(T)> <%%>;
 template <class T> struct is_polymorphic : bool_constant<__is_polymorphic(T)> <%%>;
 template <class T> struct is_empty : bool_constant<__is_empty(T)> <%%>;
 template <class T> struct is_pod : bool_constant<__is_pod(T)> <%%>;
 template <class T> struct is_trivial : bool_constant<__is_trivial(T)> <%%>;
 template <class T> struct is_trivially_copyable : bool_constant<__is_trivially_copyable(T)> <%%>;
 template <class T> struct is_standard_layout : bool_constant<__is_standard_layout(T)> <%%>;
 template <class T> struct is_literal_type : bool_constant<__is_literal_type(T)> <%%>;
 template <class T> struct is_aggregate : bool_constant<__is_aggregate(T)> <%%>;
 template <class T> struct is_trivially_destructible
     : bool_constant<__is_trivially_destructible(T)> <%%>;
 template <class T> struct has_virtual_destructor
     : bool_constant<__has_virtual_destructor(T)> <%%>;
 template <class B, class D> struct is_base_of : bool_constant<__is_base_of(B, D)> <%%>;
 template <class T, class U, bool = is_void<T>::value || is_void<U>::value>
 struct __turns_into : bool_constant<__is_convertible(T, U)> <%%>;
 template <class T, class U> struct __turns_into<T, U, true>
     : bool_constant<is_void<T>::value && is_void<U>::value> <%%>;
 template <class T, class U> struct is_convertible : __turns_into<T, U> <%%>;
 template <class T, class... A> struct is_constructible
     : bool_constant<__is_constructible(T, A...)> <%%>;
 template <class T> struct is_default_constructible : bool_constant<__is_constructible(T)> <%%>;
 template <class T> struct is_copy_constructible
     : bool_constant<__is_constructible(T, const T &)> <%%>;
 template <class T> struct is_move_constructible : bool_constant<__is_constructible(T, T &&)>
     <%%>;
 template <class T, class... A> struct is_trivially_constructible
     : bool_constant<__is_constructible(T, A...) && __is_trivially_copyable(T)> <%%>;
 template <class T> struct is_trivially_default_constructible
     : bool_constant<__is_trivial(T)> <%%>;
 template <class T> struct is_trivially_copy_constructible
     : bool_constant<__is_trivially_copyable(T)> <%%>;
 template <class T> struct is_trivially_move_constructible
     : bool_constant<__is_trivially_copyable(T)> <%%>;
 template <class T> struct is_trivially_copy_assignable
     : bool_constant<__is_trivially_copyable(T)> <%%>;
 template <class T> struct is_trivially_move_assignable
     : bool_constant<__is_trivially_copyable(T)> <%%>;
 template <bool, class T, class... A> struct __is_quietly_made : false_type <%%>;
 template <class T> struct __is_quietly_made<true, T> : bool_constant<noexcept(T())> <%%>;
 template <class T, class A> struct __is_quietly_made<true, T, A>
     : bool_constant<noexcept(static_cast<T>(declval<A>()))> <%%>;
 template <class T, class A, class B, class... C> struct __is_quietly_made<true, T, A, B, C...>
     : bool_constant<noexcept(T(declval<A>(), declval<B>(), declval<C>()...))> <%%>;
 template <class T, class... A> struct is_nothrow_constructible
     : __is_quietly_made<__is_constructible(T, A...), T, A...> <%%>;
 template <class T> struct is_nothrow_default_constructible : is_nothrow_constructible<T> <%%>;
 template <class T> struct is_nothrow_copy_constructible
     : is_nothrow_constructible<T, const T &> <%%>;
 template <class T> struct is_nothrow_move_constructible : is_nothrow_constructible<T, T &&> <%%>;
 template <class T, class U> struct __assign_test <%
   template <class X, class Y> static true_type test(decltype(declval<X>() = declval<Y>(), 0));
   template <class X, class Y> static false_type test(...);
   typedef decltype(test<T, U>(0)) type;
 %>;
 template <class T, class U> struct is_assignable : __assign_test<T, U>::type <%%>;
 template <class T> struct is_copy_assignable : is_assignable<T &, const T &> <%%>;
 template <class T> struct is_move_assignable : is_assignable<T &, T &&> <%%>;
 template <bool, class T, class U> struct __is_quietly_assigned : false_type <%%>;
 template <class T, class U> struct __is_quietly_assigned<true, T, U>
     : bool_constant<noexcept(declval<T>() = declval<U>())> <%%>;
 template <class T, class U> struct is_nothrow_assignable
     : __is_quietly_assigned<is_assignable<T, U>::value, T, U> <%%>;
 template <class T> struct is_nothrow_copy_assignable : is_nothrow_assignable<T &, const T &>
     <%%>;
 template <class T> struct is_nothrow_move_assignable : is_nothrow_assignable<T &, T &&> <%%>;
 template <class T> struct is_destructible : bool_constant<!is_void<T>::value> <%%>;
 template <class T> struct is_nothrow_destructible : is_destructible<T> <%%>;
 template <class T> struct alignment_of : integral_constant<size_t, alignof(T)> <%%>;
 template <class T> struct rank : integral_constant<size_t, 0> <%%>;
 template <class T> struct rank<T[]> : integral_constant<size_t, rank<T>::value + 1> <%%>;
 template <class T, size_t n> struct rank<T[n]>
     : integral_constant<size_t, rank<T>::value + 1> <%%>;
 template <class T, unsigned i = 0> struct extent : integral_constant<size_t, 0> <%%>;
 template <class T, size_t n> struct extent<T[n], 0> : integral_constant<size_t, n> <%%>;
 template <class T, size_t n, unsigned i> struct extent<T[n], i>
     : integral_constant<size_t, extent<T, i - 1>::value> <%%>;
 template <class T, bool = is_array<T>::value, bool = is_function<T>::value> struct __decay <%
   typedef typename remove_cv<T>::type type; %>;
 template <class T> struct __decay<T, true, false> <%
   typedef typename remove_extent<T>::type *type; %>;
 template <class T> struct __decay<T, false, true> <% typedef T *type; %>;
 template <class T> struct decay : __decay<typename remove_reference<T>::type> <%%>;
 template <class T> using decay_t = typename decay<T>::type;
 template <class T> struct underlying_type <% typedef __underlying_type(T) type; %>;
 template <class T> using underlying_type_t = typename underlying_type<T>::type;
 template <class T> struct make_signed <% typedef T type; %>;
 template <> struct make_signed<char> <% typedef signed char type; %>;
 template <> struct make_signed<unsigned char> <% typedef signed char type; %>;
 template <> struct make_signed<unsigned short> <% typedef short type; %>;
 template <> struct make_signed<unsigned> <% typedef int type; %>;
 template <> struct make_signed<unsigned long> <% typedef long type; %>;
 template <> struct make_signed<unsigned long long> <% typedef long long type; %>;
 template <class T> struct make_unsigned <% typedef T type; %>;
 template <> struct make_unsigned<char> <% typedef unsigned char type; %>;
 template <> struct make_unsigned<signed char> <% typedef unsigned char type; %>;
 template <> struct make_unsigned<short> <% typedef unsigned short type; %>;
 template <> struct make_unsigned<int> <% typedef unsigned type; %>;
 template <> struct make_unsigned<long> <% typedef unsigned long type; %>;
 template <> struct make_unsigned<long long> <% typedef unsigned long long type; %>;
 template <class T> using make_signed_t = typename make_signed<T>::type;
 template <class T> using make_unsigned_t = typename make_unsigned<T>::type;
 template <class... T> struct common_type;
 template <class T> struct common_type<T> <% typedef typename decay<T>::type type; %>;
 template <class T, class U> struct common_type<T, U> <%
   typedef typename decay<decltype(true ? declval<T>() : declval<U>())>::type type; %>;
 template <class T, class U, class V, class... W> struct common_type<T, U, V, W...>
     : common_type<typename common_type<T, U>::type, V, W...> <%%>;
 template <class... T> using common_type_t = typename common_type<T...>::type;
 template <size_t n, size_t a = 8> struct aligned_storage <%
   struct type <% alignas(a) unsigned char data[n]; %>; %>;
 template <size_t n, size_t a = 8> using aligned_storage_t =
     typename aligned_storage<n, a>::type;
 template <class F> struct result_of;
 template <class F, class... A> struct result_of<F(A...)> <%
   typedef decltype(declval<F>()(declval<A>()...)) type; %>;
 template <class F> using result_of_t = typename result_of<F>::type;
 template <class F, class... A> struct invoke_result <%
   typedef decltype(declval<F>()(declval<A>()...)) type; %>;
 template <class F, class... A> using invoke_result_t = typename invoke_result<F, A...>::type;
 template <class...> struct __invoke_test <%
   template <class F, class... A>
   static true_type test(decltype(declval<F>()(declval<A>()...)) *);
   template <class F, class... A> static false_type test(...);
 %>;
 template <class F, class... A> struct is_invocable <%
   template <class G> static auto test(int)
       -> decltype(declval<G>()(declval<A>()...), true_type());
   template <class G> static false_type test(...);
   static constexpr bool value = decltype(test<F>(0))::value;
 %>;
 template <class...> struct conjunction : true_type <%%>;
 template <class T> struct conjunction<T> : T <%%>;
 template <class T, class... U> struct conjunction<T, U...>
     : conditional<bool(T::value), conjunction<U...>, T>::type <%%>;
 template <class...> struct disjunction : false_type <%%>;
 template <class T> struct disjunction<T> : T <%%>;
 template <class T, class... U> struct disjunction<T, U...>
     : conditional<bool(T::value), T, disjunction<U...>>::type <%%>;
 template <class T> struct negation : bool_constant<!bool(T::value)> <%%>;
 template <class T> struct type_identity <% typedef T type; %>;
 #if __cplusplus >= 201703L
 template <class T, class U> inline constexpr bool is_same_v = is_same<T, U>::value;
 template <class T> inline constexpr bool is_void_v = is_void<T>::value;
 template <class T> inline constexpr bool is_integral_v = is_integral<T>::value;
 template <class T> inline constexpr bool is_floating_point_v = is_floating_point<T>::value;
 template <class T> inline constexpr bool is_arithmetic_v = is_arithmetic<T>::value;
 template <class T> inline constexpr bool is_pointer_v = is_pointer<T>::value;
 template <class T> inline constexpr bool is_reference_v = is_reference<T>::value;
 template <class T> inline constexpr bool is_lvalue_reference_v = is_lvalue_reference<T>::value;
 template <class T> inline constexpr bool is_rvalue_reference_v = is_rvalue_reference<T>::value;
 template <class T> inline constexpr bool is_const_v = is_const<T>::value;
 template <class T> inline constexpr bool is_array_v = is_array<T>::value;
 template <class T> inline constexpr bool is_enum_v = is_enum<T>::value;
 template <class T> inline constexpr bool is_class_v = is_class<T>::value;
 template <class T> inline constexpr bool is_signed_v = is_signed<T>::value;
 template <class T> inline constexpr bool is_unsigned_v = is_unsigned<T>::value;
 template <class T> inline constexpr bool is_empty_v = is_empty<T>::value;
 template <class T> inline constexpr bool is_polymorphic_v = is_polymorphic<T>::value;
 template <class T> inline constexpr bool is_abstract_v = is_abstract<T>::value;
 template <class T> inline constexpr bool is_function_v = is_function<T>::value;
 template <class T> inline constexpr bool is_trivially_copyable_v =
     is_trivially_copyable<T>::value;
 template <class B, class D> inline constexpr bool is_base_of_v = is_base_of<B, D>::value;
 template <class T, class U> inline constexpr bool is_convertible_v = is_convertible<T, U>::value;
 template <class T, class... A> inline constexpr bool is_constructible_v =
     is_constructible<T, A...>::value;
 template <class T> inline constexpr bool is_default_constructible_v =
     is_default_constructible<T>::value;
 template <class T> inline constexpr bool is_copy_constructible_v =
     is_copy_constructible<T>::value;
 template <class T> inline constexpr bool is_move_constructible_v =
     is_move_constructible<T>::value;
 template <class T> inline constexpr bool is_nothrow_move_constructible_v =
     is_nothrow_move_constructible<T>::value;
 template <class F, class... A> inline constexpr bool is_invocable_v =
     is_invocable<F, A...>::value;
 template <class... T> inline constexpr bool conjunction_v = conjunction<T...>::value;
 template <class... T> inline constexpr bool disjunction_v = disjunction<T...>::value;
 template <class T> inline constexpr bool negation_v = negation<T>::value;
 #endif
 %>
"

/-- Moves, pairs and sequences of numbers. -/
def utilities : Octets := "
 #include <type_traits>
 #include <initializer_list>
 namespace std <%
 template <class T> constexpr T &&forward(typename remove_reference<T>::type &value) noexcept <%
   return static_cast<T &&>(value); %>
 template <class T> constexpr T &&forward(typename remove_reference<T>::type &&value) noexcept <%
   return static_cast<T &&>(value); %>
 template <class T> constexpr typename remove_reference<T>::type &&move(T &&value) noexcept <%
   return static_cast<typename remove_reference<T>::type &&>(value); %>
 template <class T> constexpr typename conditional<
     !is_nothrow_move_constructible<T>::value && is_copy_constructible<T>::value,
     const T &, T &&>::type move_if_noexcept(T &value) noexcept <% return move(value); %>
 template <class T> inline void swap(T &left, T &right)
     noexcept(is_nothrow_move_constructible<T>::value) <%
   T kept = move(left); left = move(right); right = move(kept); %>
 template <class T, size_t n> inline void swap(T (&left)[n], T (&right)[n]) <%
   for (size_t i = 0; i < n; ++i) swap(left[i], right[i]); %>
 template <class T, class U = T> inline T exchange(T &object, U &&value) <%
   T old = move(object); object = forward<U>(value); return old; %>
 template <class T> constexpr typename add_const<T>::type &as_const(T &value) noexcept <%
   return value; %>
 template <class T> constexpr T *addressof(T &value) noexcept <%
   return __builtin_addressof(value); %>
 struct piecewise_construct_t <% explicit piecewise_construct_t() = default; %>;
 constexpr piecewise_construct_t piecewise_construct = piecewise_construct_t();
 struct in_place_t <% explicit in_place_t() = default; %>;
 constexpr in_place_t in_place = in_place_t();
 template <class T, T... v> struct integer_sequence <%
   typedef T value_type;
   static constexpr size_t size() noexcept <% return sizeof...(v); %> %>;
 template <size_t... v> using index_sequence = integer_sequence<size_t, v...>;
 template <class T, size_t n, T... v> struct __make_sequence
     : __make_sequence<T, n - 1, T(n - 1), v...> <%%>;
 template <class T, T... v> struct __make_sequence<T, 0, v...> <%
   typedef integer_sequence<T, v...> type; %>;
 template <class T, T n> using make_integer_sequence =
     typename __make_sequence<T, size_t(n)>::type;
 template <size_t n> using make_index_sequence = typename __make_sequence<size_t, n>::type;
 template <class... T> using index_sequence_for = make_index_sequence<sizeof...(T)>;
 template <class... T> class tuple;
 template <class T> struct tuple_size;
 template <size_t i, class T> struct tuple_element;
 template <size_t i, class T> using tuple_element_t = typename tuple_element<i, T>::type;
 template <class T> struct tuple_size<const T> : tuple_size<T> <%%>;
 template <size_t i, class T> struct tuple_element<i, const T> <%
   typedef const typename tuple_element<i, T>::type type; %>;
 template <size_t i, class... T>
 constexpr typename tuple_element<i, tuple<T...>>::type &get(tuple<T...> &t) noexcept;
 template <class T, class U> struct pair <%
   typedef T first_type; typedef U second_type;
   T first; U second;
   constexpr pair() : first(), second() <%%>
   constexpr pair(const T &a, const U &b) : first(a), second(b) <%%>
   template <class X, class Y, class = typename enable_if<
       is_constructible<T, X &&>::value && is_constructible<U, Y &&>::value &&
       is_convertible<X &&, T>::value && is_convertible<Y &&, U>::value>::type>
   constexpr pair(X &&a, Y &&b) : first(forward<X>(a)), second(forward<Y>(b)) <%%>
   template <class X, class Y, class = typename enable_if<
       is_convertible<const X &, T>::value && is_convertible<const Y &, U>::value>::type>
   constexpr pair(const pair<X, Y> &other) : first(other.first), second(other.second) <%%>
   template <class X, class Y, class = typename enable_if<
       is_convertible<X &&, T>::value && is_convertible<Y &&, U>::value>::type>
   constexpr pair(pair<X, Y> &&other)
       : first(forward<X>(other.first)), second(forward<Y>(other.second)) <%%>
   template <class... A, class... B>
   pair(piecewise_construct_t, tuple<A...> a, tuple<B...> b)
       : pair(a, b, index_sequence_for<A...>(), index_sequence_for<B...>()) <%%>
   template <class... A, class... B, size_t... i, size_t... j>
   pair(tuple<A...> &a, tuple<B...> &b, index_sequence<i...>, index_sequence<j...>)
       : first(forward<A>(get<i>(a))...), second(forward<B>(get<j>(b))...) <%%>
   pair(const pair &) = default;
   pair(pair &&) = default;
   pair &operator=(const pair &other) <%
     first = other.first; second = other.second; return *this; %>
   pair &operator=(pair &&other) <%
     first = forward<T>(other.first); second = forward<U>(other.second); return *this; %>
   template <class X, class Y> pair &operator=(const pair<X, Y> &other) <%
     first = other.first; second = other.second; return *this; %>
   template <class X, class Y> pair &operator=(pair<X, Y> &&other) <%
     first = forward<X>(other.first); second = forward<Y>(other.second); return *this; %>
   void swap(pair &other) <% using std::swap; swap(first, other.first); swap(second,
       other.second); %>
 %>;
 template <class T, class U> constexpr bool operator==(const pair<T, U> &a, const pair<T, U>
     &b) <%
   return a.first == b.first && a.second == b.second; %>
 template <class T, class U> constexpr bool operator<(const pair<T, U> &a, const pair<T, U> &b) <%
   return a.first < b.first || (!(b.first < a.first) && a.second < b.second); %>
 template <class T, class U> constexpr bool operator!=(const pair<T, U> &a, const pair<T, U>
     &b) <%
   return !(a == b); %>
 template <class T, class U> constexpr bool operator>(const pair<T, U> &a, const pair<T, U> &b) <%
   return b < a; %>
 template <class T, class U> constexpr bool operator<=(const pair<T, U> &a, const pair<T, U>
     &b) <%
   return !(b < a); %>
 template <class T, class U> constexpr bool operator>=(const pair<T, U> &a, const pair<T, U>
     &b) <%
   return !(a < b); %>
 template <class T, class U> void swap(pair<T, U> &a, pair<T, U> &b) <% a.swap(b); %>
 template <class T> class reference_wrapper;
 template <class T> struct __unwrapped <% typedef T type; %>;
 template <class T> struct __unwrapped<reference_wrapper<T>> <% typedef T &type; %>;
 template <class T> struct __kept <%
   typedef typename __unwrapped<typename decay<T>::type>::type type; %>;
 template <class T, class U>
 constexpr pair<typename __kept<T>::type, typename __kept<U>::type> make_pair(T &&a, U &&b) <%
   return pair<typename __kept<T>::type, typename __kept<U>::type>(forward<T>(a),
       forward<U>(b)); %>
 template <class T, class U> struct tuple_size<pair<T, U>> : integral_constant<size_t, 2> <%%>;
 template <class T, class U> struct tuple_element<0, pair<T, U>> <% typedef T type; %>;
 template <class T, class U> struct tuple_element<1, pair<T, U>> <% typedef U type; %>;
 template <size_t i> struct __pair_part;
 template <> struct __pair_part<0> <%
   template <class P> static constexpr auto of(P &p) -> decltype((p.first)) <% return
       p.first; %> %>;
 template <> struct __pair_part<1> <%
   template <class P> static constexpr auto of(P &p) -> decltype((p.second)) <% return
       p.second; %> %>;
 template <size_t i, class T, class U>
 constexpr typename tuple_element<i, pair<T, U>>::type &get(pair<T, U> &p) noexcept <%
   return __pair_part<i>::of(p); %>
 template <size_t i, class T, class U>
 constexpr const typename tuple_element<i, pair<T, U>>::type &get(const pair<T, U> &p) noexcept <%
   return __pair_part<i>::of(p); %>
 template <size_t i, class T, class U>
 constexpr typename tuple_element<i, pair<T, U>>::type &&get(pair<T, U> &&p) noexcept <%
   return static_cast<typename tuple_element<i, pair<T, U>>::type &&>(__pair_part<i>::of(p)); %>
 #if __cplusplus >= 201703L
 template <class T> inline constexpr size_t tuple_size_v = tuple_size<T>::value;
 #endif
 %>
"

/-- The limits of numbers. -/
def numberLimits : Octets := "
 namespace std <%
 enum float_round_style <% round_indeterminate = -1, round_toward_zero = 0,
   round_to_nearest = 1, round_toward_infinity = 2, round_toward_neg_infinity = 3 %>;
 enum float_denorm_style <% denorm_indeterminate = -1, denorm_absent = 0, denorm_present = 1 %>;
 template <class T> struct numeric_limits <%
   static constexpr bool is_specialized = false;
   static constexpr T min() noexcept <% return T(); %>
   static constexpr T max() noexcept <% return T(); %>
   static constexpr T lowest() noexcept <% return T(); %>
 %>;
 template <class T> struct numeric_limits<const T> : numeric_limits<T> <%%>;
 #define __WHOLE(type, least, most, bits, tens, sign) \\
   template <> struct numeric_limits<type> <% \\
     static constexpr bool is_specialized = true; \\
     static constexpr type min() noexcept <% return least; %> \\
     static constexpr type max() noexcept <% return most; %> \\
     static constexpr type lowest() noexcept <% return least; %> \\
     static constexpr int digits = bits; \\
     static constexpr int digits10 = tens; \\
     static constexpr int max_digits10 = 0; \\
     static constexpr bool is_signed = sign; \\
     static constexpr bool is_integer = true; \\
     static constexpr bool is_exact = true; \\
     static constexpr int radix = 2; \\
     static constexpr bool has_infinity = false; \\
     static constexpr bool has_quiet_NaN = false; \\
     static constexpr bool is_bounded = true; \\
     static constexpr bool is_modulo = !sign; \\
     static constexpr type epsilon() noexcept <% return 0; %> \\
     static constexpr type infinity() noexcept <% return 0; %> \\
     static constexpr type quiet_NaN() noexcept <% return 0; %> \\
   %>;
 __WHOLE(bool, false, true, 1, 0, false)
 __WHOLE(char, -128, 127, 7, 2, true)
 __WHOLE(signed char, -128, 127, 7, 2, true)
 __WHOLE(unsigned char, 0, 255, 8, 2, false)
 __WHOLE(wchar_t, -2147483647 - 1, 2147483647, 31, 9, true)
 __WHOLE(char16_t, 0, 65535, 16, 4, false)
 __WHOLE(char32_t, 0, 4294967295U, 32, 9, false)
 __WHOLE(short, -32768, 32767, 15, 4, true)
 __WHOLE(unsigned short, 0, 65535, 16, 4, false)
 __WHOLE(int, -2147483647 - 1, 2147483647, 31, 9, true)
 __WHOLE(unsigned, 0, 4294967295U, 32, 9, false)
 __WHOLE(long, -9223372036854775807L - 1, 9223372036854775807L, 63, 18, true)
 __WHOLE(unsigned long, 0, 18446744073709551615UL, 64, 19, false)
 __WHOLE(long long, -9223372036854775807LL - 1, 9223372036854775807LL, 63, 18, true)
 __WHOLE(unsigned long long, 0, 18446744073709551615ULL, 64, 19, false)
 #undef __WHOLE
 #define __REAL(type, least, most, step, tiny, huge, none, bits, tens, all, low, high) \\
   template <> struct numeric_limits<type> <% \\
     static constexpr bool is_specialized = true; \\
     static constexpr type min() noexcept <% return least; %> \\
     static constexpr type max() noexcept <% return most; %> \\
     static constexpr type lowest() noexcept <% return -most; %> \\
     static constexpr int digits = bits; \\
     static constexpr int digits10 = tens; \\
     static constexpr int max_digits10 = all; \\
     static constexpr bool is_signed = true; \\
     static constexpr bool is_integer = false; \\
     static constexpr bool is_exact = false; \\
     static constexpr int radix = 2; \\
     static constexpr type epsilon() noexcept <% return step; %> \\
     static constexpr type round_error() noexcept <% return 0.5; %> \\
     static constexpr int min_exponent = low; \\
     static constexpr int max_exponent = high; \\
     static constexpr bool has_infinity = true; \\
     static constexpr bool has_quiet_NaN = true; \\
     static constexpr bool has_signaling_NaN = true; \\
     static constexpr type infinity() noexcept <% return huge; %> \\
     static constexpr type quiet_NaN() noexcept <% return none; %> \\
     static constexpr type denorm_min() noexcept <% return tiny; %> \\
     static constexpr bool is_iec559 = true; \\
     static constexpr bool is_bounded = true; \\
     static constexpr bool is_modulo = false; \\
   %>;
 __REAL(float, 1.17549435082228750797e-38F, 3.40282346638528859812e+38F,
     1.1920928955078125e-7F, 1.40129846432481707092e-45F, __builtin_huge_valf(),
     __builtin_nanf(\"\"), 24, 6, 9, -125, 128)
 __REAL(double, 2.22507385850720138309e-308, 1.79769313486231570815e+308,
     2.22044604925031308085e-16, 4.94065645841246544177e-324, __builtin_huge_val(),
     __builtin_nan(\"\"), 53, 15, 17, -1021, 1024)
 #undef __REAL
 %>
"

/-- The headers about types. -/
def traitHeaders : List (Octets × Octets) :=
  [("initializer_list", initializerLists), ("type_traits", typeTraits), ("utility", utilities),
    ("limits", numberLimits)]

end QueryFoundry.Native.Headers
